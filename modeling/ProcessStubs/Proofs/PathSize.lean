import ProcessStubs.Proofs.Growth
import ProcessStubs.Proofs.OneLine

/-!
# How long paths are

Every name of a path takes its bytes and a slash before it, so the names on the way to a file fit
below each other if the whole path fits.

## Main results

* `Path.utf8ByteSize_toString`, `Path.utf8ByteSize_below`: the bytes of a path.
* `Path.fits_of_room`: a name fits below a path if there is room for it.
* `Text.split_joinWith`: joined names are split into these names.
-/

namespace ProcessStubs

open Text

/-- The bytes that names take, each with the slash before it. -/
def extent : List String → Nat
  | [] => 0
  | name :: rest => name.utf8ByteSize + 1 + extent rest

/-- Nothing takes no bytes. -/
@[simp] theorem extent_nil : extent [] = 0 := rfl

/-- A name takes its bytes and a slash. -/
@[simp] theorem extent_cons (name : String) (names : List String) :
    extent (name :: names) = name.utf8ByteSize + 1 + extent names := rfl

/-- Names take their bytes each by itself. -/
@[simp] theorem extent_append (names more : List String) :
    extent (names ++ more) = extent names + extent more := by
  induction names with
  | nil => simp
  | cons name rest ih => simp [ih, Nat.add_assoc]

/-- The bytes of joined names: there is no slash before the first one. -/
theorem utf8ByteSize_joinWith {names : List String} (h : names ≠ []) :
    (joinWith "/" names).utf8ByteSize + 1 = extent names := by
  induction names with
  | nil => exact absurd rfl h
  | cons name rest ih =>
      cases rest with
      | nil => simp [joinWith]
      | cons next rest =>
          have more := ih (List.cons_ne_nil _ _)
          have slash : "/".utf8ByteSize = 1 := rfl
          rw [joinWith, String.utf8ByteSize_append, String.utf8ByteSize_append, extent_cons, ← more,
            slash]
          · omega
          · simp

/-- **Joined names are split** into these names, if none of them holds the separator. -/
theorem Text.split_joinWith {sep : Char} {names : List String} (nonempty : names ≠ [])
    (h : ∀ name ∈ names, sep ∉ name.toList) :
    split sep (joinWith (String.singleton sep) names) = names := by
  induction names with
  | nil => exact absurd rfl nonempty
  | cons name rest ih =>
      obtain ⟨hname, hrest⟩ := List.forall_mem_cons.mp h
      cases rest with
      | nil => exact split_of_not_mem hname
      | cons next rest =>
          have more := ih (List.cons_ne_nil _ _) hrest
          have chars : (joinWith (String.singleton sep) (name :: next :: rest)).toList =
              name.toList ++ sep :: (joinWith (String.singleton sep) (next :: rest)).toList := by
            simp [joinWith]
          have first (c) (hc : c ∈ name.toList) : (c == sep) = false :=
            beq_eq_false_iff_ne.mpr fun heq => hname (heq ▸ hc)
          rw [split, chars, splitWhere_append_cons first (beq_self_eq_true sep), List.map_cons,
            String.ofList_toList]
          exact congrArg _ more

namespace Path

variable {p : Path} {name : String} {names : List String}

/-- **The bytes of a path** that has names. -/
theorem utf8ByteSize_toString (h : p.parts ≠ []) :
    p.toString.utf8ByteSize + 1 = p.anchor.text.utf8ByteSize + extent p.parts := by
  rw [toString, if_neg (by simp [h]), String.utf8ByteSize_append, ← utf8ByteSize_joinWith h]
  omega

/-- How many bytes a path takes with names after its own and a slash before each of them. -/
def extentWith (p : Path) (names : List String) : Nat :=
  p.anchor.text.utf8ByteSize + extent (p.parts ++ names)

/-- The bytes of a path with names after its own. -/
theorem utf8ByteSize_below (p : Path) (h : names ≠ []) :
    (p.below names).toString.utf8ByteSize + 1 = p.extentWith names :=
  utf8ByteSize_toString (by simp [below, h])

/-- **A name fits below a path** if there is room for it. -/
theorem fits_of_room (entry : IsEntryName name) (short : name.utf8ByteSize ≤ maxNameBytes)
    (nonzero : (p.child name).hasZero = false) (room : p.extentWith [name] ≤ maxPathBytes + 1) :
    p.Fits name where
  named := ⟨entry, short⟩
  possible := by
    refine ⟨nonzero, ?_⟩
    have size : (p.child name).toString.utf8ByteSize + 1 = p.extentWith [name] :=
      p.utf8ByteSize_below (List.cons_ne_nil _ _)
    omega

/-- Where there is room for names there is room for the first one, and for the others below it. -/
theorem extentWith_cons (p : Path) (name : String) (names : List String) :
    p.extentWith [name] ≤ p.extentWith (name :: names) ∧
      (p.child name).extentWith names = p.extentWith (name :: names) := by
  constructor
  · simp only [extentWith, extent_append, extent_cons, extent_nil]
    omega
  · simp [extentWith, child]

end Path

end ProcessStubs
