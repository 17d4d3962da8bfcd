import Mathlib.Data.List.Induction
import Mathlib.Data.List.Nodup
import ProcessStubs.Data.Assoc

/-!
# Keys of keyed lists

`Assoc.put` keeps the keys of a list distinct, so a list that was built by putting values under
keys holds each key once, and looking up a key finds the one pair that has it.

## Main results

* `nodup_keys_put`: putting a value keeps the keys distinct.
* `get?_eq_some_iff`: in a list with distinct keys, a value is found exactly where it stands.
* `map_put`: a map that tells the new key from the others carries `put` along.
* `nodup_eraseDups`, `eraseDups_of_nodup`: lists without repetitions.
* `mergeSort_eraseDups_eq_of_mem`: sorted lists of the same members are the same.
-/

namespace ProcessStubs.Assoc

variable {κ α κ' β : Type} [DecidableEq κ] [DecidableEq κ']

/-- The keys of a keyed list, in order. -/
def keys (l : List (κ × α)) : List κ := l.map Prod.fst

omit [DecidableEq κ] in
/-- The empty list has no keys. -/
@[simp] theorem keys_nil : keys ([] : List (κ × α)) = [] := rfl

omit [DecidableEq κ] in
/-- The keys of a list begin with that of its first pair. -/
@[simp] theorem keys_cons (e : κ × α) (l : List (κ × α)) : keys (e :: l) = e.1 :: keys l := rfl

omit [DecidableEq κ] in
/-- A key of a list is that of one of its pairs. -/
theorem mem_keys {key : κ} {l : List (κ × α)} : key ∈ keys l ↔ ∃ value, (key, value) ∈ l := by
  simp [keys]

/-- After a value is put under a key, the keys are those from before and that key. -/
theorem mem_keys_put {key other : κ} {value : α} {l : List (κ × α)} :
    other ∈ keys (put key value l) ↔ other = key ∨ other ∈ keys l := by
  induction l with
  | nil => simp [put]
  | cons e rest ih =>
      obtain ⟨k, v⟩ := e
      by_cases h : k = key
      · subst h
        simp [put]
      · simp only [put, if_neg h, keys_cons, List.mem_cons, ih]
        exact or_left_comm

/-- Putting a value under a key keeps the keys distinct. -/
theorem nodup_keys_put {key : κ} {value : α} {l : List (κ × α)} (h : (keys l).Nodup) :
    (keys (put key value l)).Nodup := by
  induction l with
  | nil => simp [put]
  | cons e rest ih =>
      obtain ⟨k, v⟩ := e
      rw [keys_cons, List.nodup_cons] at h
      by_cases hk : k = key
      · subst hk
        simpa [put] using h
      · rw [put, if_neg hk, keys_cons, List.nodup_cons]
        refine ⟨?_, ih h.2⟩
        rw [mem_keys_put]
        rintro (heq | hmem)
        · exact hk heq
        · exact h.1 hmem

/-- **Looking up a key.** In a list with distinct keys, a value is found under a key exactly when
the list holds the pair of the two. -/
theorem get?_eq_some_iff {key : κ} {value : α} {l : List (κ × α)} (h : (keys l).Nodup) :
    get? key l = some value ↔ (key, value) ∈ l := by
  induction l with
  | nil => simp [get?]
  | cons e rest ih =>
      obtain ⟨k, v⟩ := e
      rw [keys_cons, List.nodup_cons] at h
      have tail := ih h.2
      by_cases hk : k = key
      · subst hk
        have absent : (k, value) ∉ rest := fun hmem => h.1 (mem_keys.mpr ⟨value, hmem⟩)
        simp [get?, absent, eq_comm]
      · have hne : ¬ key = k := fun heq => hk heq.symm
        simpa [get?, hk, hne] using tail

/-- A value that is found under a key stands in the list with it. -/
theorem mem_of_get? {key : κ} {value : α} {l : List (κ × α)} (h : get? key l = some value) :
    (key, value) ∈ l := by
  obtain ⟨e, found, rfl⟩ := Option.map_eq_some_iff.mp h
  have hkey : e.1 = key := by simpa using List.find?_some found
  exact hkey ▸ List.mem_of_find?_eq_some found

/-- A key is found exactly when it is one of the keys. -/
theorem isSome_get? {key : κ} {l : List (κ × α)} : (get? key l).isSome ↔ key ∈ keys l := by
  induction l with
  | nil => simp [get?]
  | cons e rest ih =>
      obtain ⟨k, v⟩ := e
      by_cases hk : k = key
      · simp [get?, hk]
      · have hne : ¬ key = k := fun heq => hk heq.symm
        simpa [get?, hk, hne] using ih

/-- A pair of a list after `put` is the new one or one from before. -/
theorem mem_put {key : κ} {value : α} {l : List (κ × α)} {e : κ × α} (h : e ∈ put key value l) :
    e = (key, value) ∨ e ∈ l := by
  induction l with
  | nil => simpa [put] using h
  | cons x rest ih =>
      obtain ⟨k, v⟩ := x
      by_cases hk : k = key
      · rw [put, if_pos hk, List.mem_cons] at h
        exact h.imp_right (List.mem_cons_of_mem _)
      · rw [put, if_neg hk, List.mem_cons] at h
        rcases h with rfl | h
        · exact .inr List.mem_cons_self
        · exact (ih h).imp_right (List.mem_cons_of_mem _)

/-- What holds of the new entry and of all others holds of all entries. -/
theorem forall_mem_put {key : κ} {value : α} {l : List (κ × α)} {P : κ × α → Prop}
    (new : P (key, value)) (old : ∀ e ∈ l, P e) : ∀ e ∈ put key value l, P e := by
  intro e he
  rcases mem_put he with rfl | he
  · exact new
  · exact old e he

/-- **`put` under a map.** A map of pairs that tells the new key from all others takes the list
after `put` to the image of the list after `put`. -/
theorem map_put (f : κ × α → κ' × β) {key : κ} {value : α} {l : List (κ × α)}
    (h : ∀ e ∈ l, (f e).1 = (f (key, value)).1 ↔ e.1 = key) :
    (put key value l).map f = put (f (key, value)).1 (f (key, value)).2 (l.map f) := by
  induction l with
  | nil => rfl
  | cons e rest ih =>
      obtain ⟨k, v⟩ := e
      have head : (f (k, v)).1 = (f (key, value)).1 ↔ k = key := h (k, v) List.mem_cons_self
      have tail := ih fun e he => h e (List.mem_cons_of_mem _ he)
      by_cases hk : k = key
      · rw [put, if_pos hk, List.map_cons, List.map_cons, put, if_pos (head.mpr hk)]
      · rw [put, if_neg hk, List.map_cons, List.map_cons, put, if_neg (mt head.mp hk), tail]

end ProcessStubs.Assoc

namespace ProcessStubs

/-! ### Lists without repetitions -/

/-- Where nothing is repeated, everything is kept. -/
theorem eraseDups_of_nodup {α : Type} [BEq α] [LawfulBEq α] {l : List α} (h : l.Nodup) :
    l.eraseDups = l := by
  induction l with
  | nil => rfl
  | cons a l ih =>
      obtain ⟨new, distinct⟩ := List.nodup_cons.mp h
      have others : l.filter (fun b => !b == a) = l := by
        rw [List.filter_eq_self]
        intro b hb
        simpa using fun same : b = a => new (same ▸ hb)
      rw [List.eraseDups_cons, others, ih distinct]

/-- Without repetitions, nothing is repeated. -/
theorem nodup_eraseDups {α : Type} [BEq α] [LawfulBEq α] (l : List α) : l.eraseDups.Nodup := by
  induction l using List.reverseRecOn with
  | nil => exact List.nodup_nil
  | append_singleton l x ih =>
      rw [List.eraseDups_append]
      by_cases known : x ∈ l
      · simpa [List.cons_removeAll, known] using ih
      · have last : ([x].removeAll l).eraseDups = [x] := by
          simp [List.cons_removeAll, known, List.eraseDups_cons]
        rw [last]
        refine List.nodup_append.mpr ⟨ih, by simp, ?_⟩
        intro y hy z hz same
        rw [same, List.mem_singleton.mp hz] at hy
        exact known (List.mem_eraseDups.mp hy)

/-- **Sorted lists of the same members** are the same, if no two members are equal in the order. -/
theorem mergeSort_eraseDups_eq_of_mem {α : Type} [BEq α] [LawfulBEq α] {le : α → α → Bool}
    {l l' : List α} (trans : ∀ a b c, le a b = true → le b c = true → le a c = true)
    (total : ∀ a b, (le a b || le b a) = true)
    (antisymm : ∀ a ∈ l, ∀ b ∈ l, le a b = true → le b a = true → a = b)
    (same : ∀ a, a ∈ l ↔ a ∈ l') : l.eraseDups.mergeSort le = l'.eraseDups.mergeSort le := by
  have perm : l.eraseDups.Perm l'.eraseDups :=
    (List.perm_ext_iff_of_nodup (nodup_eraseDups l) (nodup_eraseDups l')).mpr fun a => by
      rw [List.mem_eraseDups, List.mem_eraseDups, same]
  have sorted (l : List α) : (l.mergeSort le).Pairwise fun a b => le a b = true :=
    List.pairwise_mergeSort trans total l
  refine List.Perm.eq_of_pairwise ?_ (sorted _) (sorted _)
    ((List.mergeSort_perm _ _).trans (perm.trans (List.mergeSort_perm _ _).symm))
  intro a b ha hb
  rw [List.mem_mergeSort, List.mem_eraseDups] at ha hb
  exact antisymm a ha b ((same b).mpr hb)

end ProcessStubs
