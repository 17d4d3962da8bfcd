import Mathlib.Data.List.Nodup
import ProcessStubs.Proofs.WriteExact

/-!
# Texts stored once more

A text is stored where nothing is or another text, and a file that holds the text already is left as
it is. Storing texts one after the other, several of them at one place perhaps, leaves at each place
what was there or the bytes of the last text. Storing all of them once more leaves the same bytes:
either all texts of a place are one text, and it is held there, or the last one of them was stored
over another one, and will be again.

## Main definitions

* `refilled`: what is at a place after a text was stored there.
* `FileTree.Filled`: the tree after the modules of writes were stored.

## Main results

* `foldl_refilled_again`: texts stored at a place once more.
* `FileTree.Filled.entryAt?_eq`: what is where after writes.
* `FileTree.Filled.again`: the same writes once more leave everything as it is.
* `FileTree.Filled.unchanged`: and count as unchanged, if no two of them go to one place.
-/

namespace ProcessStubs

open FileTree

/-- The text that is held somewhere: that of the file there, if there is one and it is a text. -/
def heldText? : Option FileEntry → Option String
  | some (.file bytes) => (textOfBytes bytes).toOption
  | _ => none

/-- A file holds the text that is read from it. -/
theorem heldText?_file {bytes : ByteArray} {text : String} :
    heldText? (some (.file bytes)) = some text ↔ textOfBytes bytes = .ok text := by
  rw [heldText?]
  cases textOfBytes bytes <;> simp [Except.toOption]

/-- A place that takes a text: nothing is there, or another text. -/
def TakesText (e : Option FileEntry) : Prop :=
  ∀ x, e = some x → ∃ old, x = .file old ∧ HoldsText old

/-- A text takes the place of a text. -/
theorem takesText_of_holdsText {bytes : ByteArray} (h : HoldsText bytes) :
    TakesText (some (.file bytes)) := by
  rintro _ ⟨⟩
  exact ⟨bytes, rfl, h⟩

/-- **What is at a place** after a text was stored there: what was there if it holds the text, or
else its bytes. -/
def refilled (e : Option FileEntry) (text : String) : Option FileEntry :=
  if heldText? e = some text then e else some (.file text.toUTF8)

/-- A text that is held is left as it is. -/
theorem refilled_of_held {e : Option FileEntry} {text : String} (h : heldText? e = some text) :
    refilled e text = e := by
  rw [refilled, if_pos h]

/-- A text that was stored is held, if it holds no carriage return. -/
theorem heldText?_refilled {text : String} (returns : '\r' ∉ text.toList) (e : Option FileEntry) :
    heldText? (refilled e text) = some text := by
  rw [refilled]
  split
  · next held => exact held
  · exact heldText?_file.mpr (textOfBytes_toUTF8 returns)

/-- A text that is held is left as it is however often it is stored. -/
theorem foldl_refilled_of_held {e : Option FileEntry} {text : String} {texts : List String}
    (held : heldText? e = some text) (same : ∀ x ∈ texts, x = text) :
    texts.foldl refilled e = e := by
  induction texts with
  | nil => rfl
  | cons x rest ih =>
      obtain ⟨rfl, others⟩ := List.forall_mem_cons.mp same
      rw [List.foldl_cons, refilled_of_held held, ih others]

/-- The last text that was stored is held. -/
theorem heldText?_foldl {text : String} {texts : List String} (nonempty : texts ≠ [])
    (returns : '\r' ∉ text.toList) (same : ∀ x ∈ texts, x = text) (e : Option FileEntry) :
    heldText? (texts.foldl refilled e) = some text := by
  cases texts with
  | nil => exact absurd rfl nonempty
  | cons x rest =>
      obtain ⟨rfl, others⟩ := List.forall_mem_cons.mp same
      have held := heldText?_refilled returns e
      rw [List.foldl_cons, foldl_refilled_of_held held others, held]

/-- **Texts stored at one place** are all one text, or leave the same whatever was there: the last
one that differs from the one before it is stored over that one. -/
theorem foldl_refilled_cases {texts : List String} (returns : ∀ x ∈ texts, '\r' ∉ x.toList) :
    (∃ text, ∀ x ∈ texts, x = text) ∨ ∃ left, ∀ e, texts.foldl refilled e = left := by
  induction texts using List.reverseRecOn with
  | nil => exact .inl ⟨"", nofun⟩
  | append_singleton texts last ih =>
      rcases ih fun x hx => returns x (List.mem_append_left _ hx) with ⟨text, same⟩ | ⟨left, const⟩
      · by_cases repeated : texts = [] ∨ text = last
        · refine .inl ⟨last, List.forall_mem_append.mpr ⟨fun x hx => ?_, by simp⟩⟩
          rcases repeated with rfl | rfl
          · cases hx
          · exact same x hx
        · obtain ⟨nonempty, other⟩ := not_or.mp repeated
          have without : '\r' ∉ text.toList := by
            obtain ⟨x, hx⟩ := List.exists_mem_of_ne_nil texts nonempty
            exact same x hx ▸ returns x (List.mem_append_left _ hx)
          refine .inr ⟨some (.file last.toUTF8), fun e => ?_⟩
          have held := heldText?_foldl nonempty without same e
          rw [List.foldl_append, List.foldl_cons, List.foldl_nil, refilled, held,
            if_neg (by simpa using other)]
      · refine .inr ⟨refilled left last, fun e => ?_⟩
        rw [List.foldl_append, const e]
        rfl

/-- **Texts stored at one place once more** leave what they have left. -/
theorem foldl_refilled_again {texts : List String} (returns : ∀ x ∈ texts, '\r' ∉ x.toList)
    (e : Option FileEntry) :
    texts.foldl refilled (texts.foldl refilled e) = texts.foldl refilled e := by
  rcases foldl_refilled_cases returns with ⟨text, same⟩ | ⟨left, const⟩
  · cases texts with
    | nil => rfl
    | cons x rest =>
        have without := same x List.mem_cons_self ▸ returns x List.mem_cons_self
        have held := heldText?_foldl (List.cons_ne_nil x rest) without same e
        exact foldl_refilled_of_held held same
  · rw [const, const]

namespace FileTree

variable {t t' t'' : FileTree} {l m place : Location} {text : String} {status : WriteStatus}
  {writes writes' : List Write} {root : Path} {packageMarkers : Bool} {names : List String}

/-- **What storing a text does** at its place, and when it counts as unchanged. -/
theorem TextStored.refilled (h : TextStored place text t (.ok status) t') (nonempty : place ≠ []) :
    TakesText (t.entryAt? place) ∧
      t'.entryAt? place = refilled (t.entryAt? place) text ∧
      (status = .unchanged ↔ heldText? (t.entryAt? place) = some text) := by
  cases h with
  | unchanged found read =>
      have held := heldText?_file.mpr read
      rw [found, refilled_of_held held]
      exact ⟨takesText_of_holdsText ⟨_, read⟩, rfl, by simp [held]⟩
  | fresh free =>
      rw [free, entryAt?_put_self t nonempty]
      exact ⟨fun _ found => (by cases found), rfl, by simp [heldText?]⟩
  | replaced found read other =>
      have held := heldText?_file.mpr read
      rw [found, entryAt?_put_self t nonempty, ProcessStubs.refilled, held,
        if_neg (by simpa using other)]
      exact ⟨takesText_of_holdsText ⟨_, read⟩, rfl, by simpa using other⟩

/-- **The tree after writes**: their modules were stored below a location, one after the other. -/
inductive Filled (l : Location) (t : FileTree) : List Write → FileTree → Prop
  | nil : Filled l t [] t
  | concat {writes : List Write} {t₁ t₂ : FileTree} {w : Write} : Filled l t writes t₁ →
      TextStored (w.stub.place l) w.stub.moduleText t₁ (.ok w.status) t₂ →
      Filled l t (writes ++ [w]) t₂

/-- The texts of the stubs that go to a place, in order. -/
def textsAt (l m : Location) (stubs : List Stub) : List String :=
  (stubs.filter (·.place l = m)).map Stub.moduleText

/-- A module is somewhere below the root. -/
theorem place_ne_nil (u : Stub) (l : Location) : u.place l ≠ [] := by
  simp [Stub.place]

/-- The text of a stub is the only one at its place, if no other one goes there. -/
theorem textsAt_of_nodup {stubs : List Stub} (nodup : (stubs.map (·.place l)).Nodup) {u : Stub}
    (hu : u ∈ stubs) : textsAt l (u.place l) stubs = [u.moduleText] := by
  obtain ⟨before, after, rfl⟩ := List.append_of_mem hu
  rw [List.map_append, List.map_cons, List.nodup_middle, List.nodup_cons, List.mem_append,
    not_or] at nodup
  have others (stubs : List Stub) (h : u.place l ∉ stubs.map (·.place l)) :
      stubs.filter (·.place l = u.place l) = [] := by
    rw [List.filter_eq_nil_iff]
    intro v hv same
    exact h (List.mem_map.mpr ⟨v, hv, by simpa using same⟩)
  rw [textsAt, List.filter_append, List.filter_cons_of_pos (by simp), others before nodup.1.1,
    others after nodup.1.2]
  rfl

namespace Filled

/-- A tree after writes has grown. -/
theorem grows (h : Filled l t writes t') : Grows t t' := by
  induction h with
  | nil => exact .refl t
  | concat _ stored ih => exact ih.trans (stored.grows (place_ne_nil _ _))

/-- No links are stored. -/
theorem linkFree (h : Filled l t writes t') (free : t.LinkFree) : t'.LinkFree := by
  induction h with
  | nil => exact free
  | concat _ stored ih =>
      have below : LinkFreeBelow _ [] := stored.linkFreeBelow fun q e found => ih q e found
      exact fun m e found => below m e found

/-- **What is where after writes.** -/
theorem entryAt?_eq (h : Filled l t writes t') (m : Location) :
    t'.entryAt? m = (textsAt l m (writes.map Write.stub)).foldl refilled (t.entryAt? m) := by
  induction h with
  | nil => rfl
  | @concat writes t₁ t₂ w before stored ih =>
      rw [textsAt, List.map_append, List.filter_append, List.map_append, List.foldl_append]
      have same := ih
      rw [textsAt] at same
      rw [← same]
      by_cases place : w.stub.place l = m
      · subst place
        rw [(stored.refilled (place_ne_nil _ _)).2.1]
        simp
      · rw [stored.entryAt?_of_ne (Ne.symm place)]
        simp [place]

/-- Writes change only places that take a text, and these still do. -/
theorem takesText (h : Filled l t writes t') (m : Location) :
    t'.entryAt? m = t.entryAt? m ∨ TakesText (t.entryAt? m) ∧ TakesText (t'.entryAt? m) := by
  induction h with
  | nil => exact .inl rfl
  | @concat writes t₁ t₂ w before stored ih =>
      by_cases place : m = w.stub.place l
      · subst place
        have takes := (stored.refilled (place_ne_nil _ _)).1
        obtain ⟨bytes, current, found, read, -⟩ := stored.exists_text (place_ne_nil _ _)
        have still : TakesText (t₂.entryAt? (w.stub.place l)) :=
          found ▸ takesText_of_holdsText ⟨current, read⟩
        rcases ih with same | ⟨first, -⟩
        · exact .inr ⟨same ▸ takes, still⟩
        · exact .inr ⟨first, still⟩
      · rwa [stored.entryAt?_of_ne place]

/-- Each write was stored after those before it. -/
theorem exists_of_mem (h : Filled l t writes t') {w : Write} (hw : w ∈ writes) :
    ∃ before after t₁ t₂, writes = before ++ w :: after ∧ Filled l t before t₁ ∧
      TextStored (w.stub.place l) w.stub.moduleText t₁ (.ok w.status) t₂ := by
  induction h with
  | nil => cases hw
  | concat before stored ih =>
      rcases List.mem_append.mp hw with hw | hw
      · obtain ⟨first, after, t₁, t₂, rfl, filled, stored'⟩ := ih hw
        exact ⟨first, after ++ [_], t₁, t₂, List.append_assoc _ _ _, filled, stored'⟩
      · cases List.mem_singleton.mp hw
        exact ⟨_, [], _, _, rfl, before, stored⟩

variable (h : Filled l t writes t') (h' : Filled l t' writes' t'')
  (same : writes'.map Write.stub = writes.map Write.stub)
  (returns : ∀ w ∈ writes, '\r' ∉ w.stub.moduleText.toList)

include h h' same returns

/-- **The same writes once more** leave everything as it is. -/
theorem again (m : Location) : t''.entryAt? m = t'.entryAt? m := by
  rw [h'.entryAt?_eq, same, h.entryAt?_eq]
  refine foldl_refilled_again ?_ _
  intro text htext
  obtain ⟨u, hu, rfl⟩ := List.mem_map.mp htext
  obtain ⟨w, hw, rfl⟩ := List.mem_map.mp (List.mem_filter.mp hu).1
  exact returns w hw

/-- **The same writes once more** count as unchanged, if no two of them go to one place. -/
theorem unchanged (nodup : (writes.map (·.stub.place l)).Nodup) :
    ∀ w ∈ writes', w.status = .unchanged := by
  intro w hw
  have nodup : ((writes.map Write.stub).map (·.place l)).Nodup := by
    rwa [List.map_map]
  have hu : w.stub ∈ writes.map Write.stub := same ▸ List.mem_map_of_mem hw
  have without : '\r' ∉ w.stub.moduleText.toList := by
    obtain ⟨v, hv, stub⟩ := List.mem_map.mp hu
    exact stub ▸ returns v hv
  have held : heldText? (t'.entryAt? (w.stub.place l)) = some w.stub.moduleText := by
    rw [h.entryAt?_eq, textsAt_of_nodup nodup hu]
    exact heldText?_refilled without _
  obtain ⟨before, after, t₁, t₂, rfl, filled, stored⟩ := h'.exists_of_mem hw
  have untouched : t₁.entryAt? (w.stub.place l) = t'.entryAt? (w.stub.place l) := by
    have none : textsAt l (w.stub.place l) (before.map Write.stub) = [] := by
      rw [← same] at nodup
      rw [textsAt, List.map_eq_nil_iff, List.filter_eq_nil_iff]
      intro v hv here
      rw [List.map_append, List.map_append, List.map_cons, List.map_cons, List.nodup_middle,
        List.nodup_cons] at nodup
      exact nodup.1 (List.mem_append_left _ (List.mem_map.mpr ⟨v, hv, by simpa using here⟩))
    rw [filled.entryAt?_eq, none]
    rfl
  exact (stored.refilled (place_ne_nil _ _)).2.2.mpr (untouched ▸ held)

end Filled

end FileTree

end ProcessStubs
