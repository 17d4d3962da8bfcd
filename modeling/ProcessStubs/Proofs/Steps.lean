import Mathlib.Data.List.Forall2

/-!
# Steps that may fail

Steps that may fail are taken one after the other, and a question that may fail is asked of each
member of a list. Either all goes well, and the result is made of the answers, or the first failure
decides.

## Main results

* `bind_eq_ok_iff`, `bind_eq_error_iff`: how two steps succeed or fail together.
* `mapM_eq_ok_iff`, `mapM_eq_error_iff`: what asking all members gives.
* `exists_of_foldlM_eq_error`: where steps for all members fail.
* `filterM_eq_ok_iff`, `filterM_eq_error_iff`: what keeping members by an answer gives.
-/

namespace ProcessStubs

/-- Two steps succeed together if the first one does, and the second one with its result. -/
theorem bind_eq_ok_iff {ε α β : Type} {x : Except ε α} {f : α → Except ε β} {b : β} :
    x >>= f = .ok b ↔ ∃ a, x = .ok a ∧ f a = .ok b := by
  cases x with
  | error fault =>
      constructor
      · intro h
        cases h
      · rintro ⟨a, h, -⟩
        cases h
  | ok a =>
      constructor
      · intro h
        exact ⟨a, rfl, h⟩
      · rintro ⟨a', h, ok⟩
        cases h
        exact ok

/-- Two steps fail together if the first one does, or the second one after it. -/
theorem bind_eq_error_iff {ε α β : Type} {x : Except ε α} {f : α → Except ε β} {fault : ε} :
    x >>= f = .error fault ↔ x = .error fault ∨ ∃ a, x = .ok a ∧ f a = .error fault := by
  cases x with
  | error e =>
      constructor
      · intro h
        cases h
        exact .inl rfl
      · rintro (h | ⟨a, h, -⟩)
        · cases h
          rfl
        · cases h
  | ok a =>
      constructor
      · intro h
        exact .inr ⟨a, rfl, h⟩
      · rintro (h | ⟨a', h, failed⟩)
        · cases h
        · cases h
          exact failed

/-- What follows a step that succeeded goes on with its result. -/
theorem ok_bind {ε α β : Type} (a : α) (f : α → Except ε β) :
    (.ok a : Except ε α) >>= f = f a := rfl

/-- Nothing follows a step that failed. -/
theorem error_bind {ε α β : Type} (fault : ε) (f : α → Except ε β) :
    (.error fault : Except ε α) >>= f = .error fault := rfl

/-- A step whose result is only made into another one fails exactly as the step itself. -/
theorem bind_pure_eq_error_iff {ε α β : Type} {x : Except ε α} {g : α → β} {fault : ε} :
    (x >>= fun a => pure (g a)) = .error fault ↔ x = .error fault := by
  cases x with
  | error e =>
      rw [error_bind]
      simp
  | ok a => exact ⟨nofun, nofun⟩

/-- A result stays the same where faults are told in other words. -/
theorem mapError_ok {ε ε' α : Type} (f : ε → ε') (a : α) :
    (.ok a : Except ε α).mapError f = .ok a := rfl

/-- A fault is told in other words. -/
theorem mapError_error {ε ε' α : Type} (f : ε → ε') (fault : ε) :
    (.error fault : Except ε α).mapError f = .error (f fault) := rfl

/-- A result that there is where faults are told in other words was there before. -/
theorem mapError_eq_ok_iff {ε ε' α : Type} {x : Except ε α} {f : ε → ε'} {a : α} :
    x.mapError f = .ok a ↔ x = .ok a := by
  cases x with
  | error e => exact ⟨nofun, nofun⟩
  | ok b => simp [mapError_ok]

/-- A fault that is told in other words is the image of a fault. -/
theorem mapError_eq_error_iff {ε ε' α : Type} {x : Except ε α} {f : ε → ε'} {fault : ε'} :
    x.mapError f = .error fault ↔ ∃ e, x = .error e ∧ f e = fault := by
  cases x with
  | error e =>
      constructor
      · intro h
        exact ⟨e, rfl, Except.error.inj h⟩
      · rintro ⟨e', he, rfl⟩
        cases he
        rfl
  | ok a =>
      constructor
      · intro h
        cases h
      · rintro ⟨e, he, -⟩
        cases he

/-! ### Questions about the members of a list -/

variable {ε α β : Type}

/-- All members have an answer, and the answers are the result. -/
theorem mapM_eq_ok_iff {f : α → Except ε β} {l : List α} {answers : List β} :
    l.mapM f = .ok answers ↔ List.Forall₂ (fun a b => f a = .ok b) l answers := by
  induction l generalizing answers with
  | nil =>
      rw [List.mapM_nil]
      constructor
      · intro h
        cases h
        exact .nil
      · intro h
        cases h
        rfl
  | cons a rest ih =>
      rw [List.mapM_cons, bind_eq_ok_iff]
      constructor
      · rintro ⟨b, hb, h⟩
        obtain ⟨bs, hbs, h⟩ := bind_eq_ok_iff.mp h
        cases h
        exact .cons hb (ih.mp hbs)
      · intro h
        cases h with
        | cons hb hbs => exact ⟨_, hb, bind_eq_ok_iff.mpr ⟨_, ih.mpr hbs, rfl⟩⟩

/-- Where all members have an answer, each member has one among the answers, and each answer is that
of a member. -/
theorem exists_of_mapM_eq_ok {f : α → Except ε β} {l : List α} {answers : List β}
    (h : l.mapM f = .ok answers) :
    (∀ a ∈ l, ∃ b ∈ answers, f a = .ok b) ∧ ∀ b ∈ answers, ∃ a ∈ l, f a = .ok b := by
  have pairs := mapM_eq_ok_iff.mp h
  clear h
  induction pairs with
  | nil => simp
  | @cons a b l answers hab _ ih =>
      obtain ⟨left, right⟩ := ih
      constructor
      · intro x hx
        rcases List.mem_cons.mp hx with rfl | hx
        · exact ⟨b, List.mem_cons_self, hab⟩
        · obtain ⟨y, hy, hxy⟩ := left x hx
          exact ⟨y, List.mem_cons_of_mem _ hy, hxy⟩
      · intro y hy
        rcases List.mem_cons.mp hy with rfl | hy
        · exact ⟨a, List.mem_cons_self, hab⟩
        · obtain ⟨x, hx, hxy⟩ := right y hy
          exact ⟨x, List.mem_cons_of_mem _ hx, hxy⟩

/-- A list fails at its first member, or after that has an answer. -/
theorem mapM_cons_eq_error_iff {f : α → Except ε β} {x : α} {rest : List α} {fault : ε} :
    (x :: rest).mapM f = .error fault ↔
      f x = .error fault ∨ (∃ b, f x = .ok b) ∧ rest.mapM f = .error fault := by
  rw [List.mapM_cons]
  cases hx : f x with
  | error e =>
      rw [error_bind]
      simp
  | ok b =>
      rw [ok_bind, bind_pure_eq_error_iff]
      simp

/-- The first member that has no answer decides how the whole list fails. -/
theorem mapM_eq_error_iff {f : α → Except ε β} {l : List α} {fault : ε} :
    l.mapM f = .error fault ↔
      ∃ before a after, l = before ++ a :: after ∧ (∀ x ∈ before, ∃ b, f x = .ok b) ∧
        f a = .error fault := by
  induction l with
  | nil =>
      constructor
      · intro h
        cases h
      · rintro ⟨before, a, after, heq, -⟩
        simp at heq
  | cons x rest ih =>
      rw [mapM_cons_eq_error_iff, ih]
      constructor
      · rintro (ha | ⟨hx, before, a, after, rfl, answered, ha⟩)
        · exact ⟨[], x, rest, rfl, nofun, ha⟩
        · exact ⟨x :: before, a, after, rfl, List.forall_mem_cons.mpr ⟨hx, answered⟩, ha⟩
      · rintro ⟨before, a, after, heq, answered, ha⟩
        rcases List.cons_eq_append_iff.mp heq with ⟨rfl, heq⟩ | ⟨before, rfl, rfl⟩
        · cases heq
          exact .inl ha
        · obtain ⟨hx, answered⟩ := List.forall_mem_cons.mp answered
          exact .inr ⟨hx, before, a, after, rfl, answered, ha⟩

/-- Steps taken for members one after the other fail only at one of them. -/
theorem exists_of_foldlM_eq_error {f : β → α → Except ε β} {l : List α} {b : β} {fault : ε}
    (h : l.foldlM f b = .error fault) : ∃ a ∈ l, ∃ b', f b' a = .error fault := by
  induction l generalizing b with
  | nil => cases h
  | cons a rest ih =>
      rw [List.foldlM_cons] at h
      rcases bind_eq_error_iff.mp h with h | ⟨b', -, h⟩
      · exact ⟨a, List.mem_cons_self, b, h⟩
      · obtain ⟨x, hx, later⟩ := ih h
        exact ⟨x, List.mem_cons_of_mem _ hx, later⟩

/-- Whether the answer for a member is yes. -/
def accepts (p : α → Except ε Bool) (a : α) : Bool :=
  match p a with
  | .ok b => b
  | .error _ => false

/-- A member is accepted exactly if the answer for it is yes. -/
theorem accepts_iff {p : α → Except ε Bool} {a : α} : accepts p a = true ↔ p a = .ok true := by
  rw [accepts]
  cases p a with
  | error fault => simp
  | ok b => simp

/-- Members are kept by their answers, before those that were kept already. -/
theorem filterAuxM_eq_ok_iff {p : α → Except ε Bool} {l kept result : List α} :
    l.filterAuxM p kept = .ok result ↔
      (∀ a ∈ l, ∃ b, p a = .ok b) ∧ result = (l.filter (accepts p)).reverse ++ kept := by
  induction l generalizing kept with
  | nil =>
      constructor
      · intro h
        cases h
        exact ⟨by simp, rfl⟩
      · rintro ⟨-, rfl⟩
        rfl
  | cons a rest ih =>
      rw [List.filterAuxM, bind_eq_ok_iff]
      constructor
      · rintro ⟨b, hb, h⟩
        obtain ⟨answered, rfl⟩ := ih.mp h
        refine ⟨List.forall_mem_cons.mpr ⟨⟨b, hb⟩, answered⟩, ?_⟩
        cases b <;> simp [accepts, hb]
      · rintro ⟨answered, rfl⟩
        obtain ⟨⟨b, hb⟩, answered⟩ := List.forall_mem_cons.mp answered
        refine ⟨b, hb, ih.mpr ⟨answered, ?_⟩⟩
        cases b <;> simp [accepts, hb]

/-- If all members have an answer, those with the answer yes are kept in order. -/
theorem filterM_eq_ok_iff {p : α → Except ε Bool} {l result : List α} :
    l.filterM p = .ok result ↔
      (∀ a ∈ l, ∃ b, p a = .ok b) ∧ result = l.filter (accepts p) := by
  rw [List.filterM, bind_eq_ok_iff]
  constructor
  · rintro ⟨kept, h, hresult⟩
    obtain ⟨answered, rfl⟩ := filterAuxM_eq_ok_iff.mp h
    cases hresult
    exact ⟨answered, by simp⟩
  · rintro ⟨answered, rfl⟩
    exact ⟨_, filterAuxM_eq_ok_iff.mpr ⟨answered, rfl⟩, by simp [pure, Except.pure]⟩

/-- Keeping members fails before those that were kept already as asking them does. -/
theorem filterAuxM_eq_error_iff {p : α → Except ε Bool} {l kept : List α} {fault : ε} :
    l.filterAuxM p kept = .error fault ↔ l.mapM p = .error fault := by
  induction l generalizing kept with
  | nil => exact ⟨nofun, nofun⟩
  | cons a rest ih =>
      rw [List.filterAuxM, List.mapM_cons]
      cases p a with
      | error e => rw [error_bind, error_bind]; simp
      | ok b => rw [ok_bind, ok_bind, bind_pure_eq_error_iff, ih]

/-- Keeping members by their answers fails exactly as asking all of them. -/
theorem filterM_eq_error_iff {p : α → Except ε Bool} {l : List α} {fault : ε} :
    l.filterM p = .error fault ↔ l.mapM p = .error fault := by
  rw [List.filterM, bind_pure_eq_error_iff, filterAuxM_eq_error_iff]

end ProcessStubs
