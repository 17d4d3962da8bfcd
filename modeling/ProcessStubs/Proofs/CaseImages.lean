import Mathlib.Data.List.SplitBy
import Mathlib.Data.Nat.ModEq
import ProcessStubs.Text.Words

/-!
# Images of case maps

The case maps are tables of runs, and what holds of all characters follows from what the tables
show: an image of a run belongs to no run of the same table, and neither what a run maps nor what it
maps to separates words. Runs of every second character are interleaved, capital letters with small
ones, so that ranges alone do not tell images from what is mapped; remainders by a common divisor of
the steps do.

## Main definitions

* `CaseRun.avoids`: a test by which no image of a run belongs to another one.
* `blocks`: the parts of a table, most of which a run avoids as a whole.
* `Settled`: a table that maps no image again and leaves separators alone.

## Main results

* `settled_upperRuns`, `settled_lowerRuns`: both tables are settled.
* `upper_upper`, `lower_lower`: mapping once more changes nothing.
* `isSeparator_upper`, `isSeparator_lower`: what separates words does so in either case.
-/

namespace ProcessStubs.Text

namespace CaseRun

variable {r r' : CaseRun} {n m : Nat}

/-- The last code point that an image of the run can have. -/
def reach (r : CaseRun) : Nat := r.target + (r.last - r.first)

/-- Whether all images of a run lie outside of a range. -/
def misses (r : CaseRun) (lo hi : Nat) : Bool := r.reach.blt lo || hi.blt r.target

/-- The distance between characters of a run. A run of one character has none. -/
def stride (r : CaseRun) : Nat := if r.first = r.last then 0 else r.step

/-- Whether no image of the first run belongs to the second one, because their ranges are apart or
their remainders by the common divisor of the strides are different. -/
def avoids (r r' : CaseRun) : Bool :=
  r.misses r'.first r'.last ||
    r.target % r.stride.gcd r'.stride != r'.first % r.stride.gcd r'.stride

/-- What a run maps, and where to. -/
theorem image?_eq_some_iff :
    r.image? n = some m ↔
      r.first ≤ n ∧ n ≤ r.last ∧ (n - r.first) % r.step = 0 ∧ m = r.target + (n - r.first) := by
  simp only [image?, Bool.and_eq_true, decide_eq_true_eq, beq_iff_eq]
  split
  · next h => simp [h, eq_comm]
  · next h => simp only [reduceCtorEq, false_iff]; tauto

/-- The characters of a run are strides apart. -/
theorem stride_dvd (h : r.image? n = some m) : r.stride ∣ n - r.first := by
  obtain ⟨first, last, steps, -⟩ := image?_eq_some_iff.mp h
  rw [stride]
  split
  · rw [show n - r.first = 0 by omega]
  · exact Nat.dvd_of_mod_eq_zero steps

/-- Images lie in the range of images. -/
theorem le_image (h : r.image? n = some m) : r.target ≤ m ∧ m ≤ r.reach := by
  obtain ⟨first, last, -, rfl⟩ := image?_eq_some_iff.mp h
  rw [reach]
  omega

/-- Images are not in a range that they miss. -/
theorem not_mem_of_misses {lo hi : Nat} (apart : r.misses lo hi = true)
    (h : r.image? n = some m) : ¬ (lo ≤ m ∧ m ≤ hi) := by
  have between := le_image h
  rw [misses, Bool.or_eq_true, Nat.blt_eq, Nat.blt_eq] at apart
  omega

/-- **A run maps no image of a run that avoids it.** -/
theorem image?_eq_none_of_avoids (apart : r.avoids r' = true) (h : r.image? n = some m) :
    r'.image? m = none := by
  rw [Option.eq_none_iff_forall_not_mem]
  intro k hk
  obtain ⟨first, last, -, -⟩ := image?_eq_some_iff.mp hk
  rw [avoids, Bool.or_eq_true, bne_iff_ne] at apart
  rcases apart with apart | different
  · exact not_mem_of_misses apart h ⟨first, last⟩
  · have image : m = r.target + (n - r.first) := (image?_eq_some_iff.mp h).2.2.2
    -- Both beginnings differ from the image by multiples of the common divisor.
    have target : r.target ≡ m [MOD r.stride.gcd r'.stride] := by
      rw [Nat.modEq_iff_dvd' (le_image h).1, image, Nat.add_sub_cancel_left]
      exact (Nat.gcd_dvd_left _ _).trans (stride_dvd h)
    have source : r'.first ≡ m [MOD r.stride.gcd r'.stride] := by
      rw [Nat.modEq_iff_dvd' first]
      exact (Nat.gcd_dvd_right _ _).trans (stride_dvd hk)
    exact different (target.trans source.symm)

end CaseRun

/-! ### Tables in parts -/

/-- The code points between which the runs of a part of a table lie. -/
def span : List CaseRun → Nat × Nat
  | [] => (0x110000, 0)
  | r :: part => (min r.first (span part).1, max r.last (span part).2)

/-- The runs of a part lie in its span. -/
theorem mem_span {r : CaseRun} {part : List CaseRun} (h : r ∈ part) :
    (span part).1 ≤ r.first ∧ r.last ≤ (span part).2 := by
  induction part with
  | nil => cases h
  | cons r' part ih =>
      rw [span]
      rcases List.mem_cons.mp h with rfl | h
      · exact ⟨Nat.min_le_left _ _, Nat.le_max_left _ _⟩
      · exact ⟨(Nat.min_le_right _ _).trans (ih h).1, (ih h).2.trans (Nat.le_max_right _ _)⟩

/-- A test by which a run avoids all runs of a part. Mostly its images miss the part as a whole. -/
def CaseRun.avoidsPart (r : CaseRun) (part : List CaseRun) : Bool :=
  r.misses (span part).1 (span part).2 || part.all r.avoids

/-- The parts of a table, each of them with the runs that begin in one block of 256 characters. -/
def blocks (runs : List CaseRun) : List (List CaseRun) :=
  runs.splitBy fun r r' => r.first / 0x100 == r'.first / 0x100

/-- Runs that avoid all parts of a table avoid all of its runs. There are many pairs of runs, and
few of them are near to each other. -/
theorem all_avoids_of_avoidsPart {runs : List CaseRun}
    (h : (runs.all fun r => (blocks runs).all r.avoidsPart) = true) :
    ∀ r ∈ runs, runs.all r.avoids = true := by
  intro r hr
  rw [List.all_eq_true]
  intro r' hr'
  rw [← List.flatten_splitBy (fun r r' => r.first / 0x100 == r'.first / 0x100) runs,
    List.mem_flatten] at hr'
  obtain ⟨part, hpart, hr'⟩ := hr'
  have parted := List.all_eq_true.mp (List.all_eq_true.mp h r hr) part hpart
  rw [CaseRun.avoidsPart, Bool.or_eq_true] at parted
  rcases parted with missed | pairwise
  · have inside := mem_span hr'
    rw [CaseRun.misses, Bool.or_eq_true, Nat.blt_eq, Nat.blt_eq] at missed
    rw [CaseRun.avoids, CaseRun.misses, Bool.or_eq_true, Bool.or_eq_true, Nat.blt_eq, Nat.blt_eq]
    exact .inl (by omega)
  · exact List.all_eq_true.mp pairwise r' hr'

/-! ### Settled tables -/

/-- The code points of the characters that separate words. -/
def separatorRanges : List (Nat × Nat) := (0x2D, 0x2D) :: (0x5F, 0x5F) :: blankRanges

/-- **A settled table**: its images are characters, none of which it maps again, and no separator of
words is among what it maps or maps to. -/
structure Settled (runs : List CaseRun) : Prop where
  valid : ∀ r ∈ runs, r.reach < 0xD800 ∨ 0xDFFF < r.target ∧ r.reach < 0x110000
  final : ∀ r ∈ runs, runs.all r.avoids = true
  apart : ∀ r ∈ runs, ∀ s ∈ separatorRanges,
    r.misses s.1 s.2 = true ∧ (r.last < s.1 ∨ s.2 < r.first)

/-- A test by which neither what the runs of a table map is in the given ranges nor what they map
to. -/
theorem apart_of_test {runs : List CaseRun} {ranges : List (Nat × Nat)}
    (h : (runs.all fun r => ranges.all fun s =>
      r.misses s.1 s.2 && (r.last.blt s.1 || s.2.blt r.first)) = true) :
    ∀ r ∈ runs, ∀ s ∈ ranges,
      r.misses s.1 s.2 = true ∧ (r.last < s.1 ∨ s.2 < r.first) := by
  simpa only [List.all_eq_true, Bool.and_eq_true, Bool.or_eq_true, Nat.blt_eq] using h

/-- The table of capital letters is settled. -/
theorem settled_upperRuns : Settled upperRuns where
  valid := by decide +kernel
  final := all_avoids_of_avoidsPart (by decide +kernel)
  apart := apart_of_test (by decide +kernel)

/-- The table of small letters is settled. -/
theorem settled_lowerRuns : Settled lowerRuns where
  valid := by decide +kernel
  final := all_avoids_of_avoidsPart (by decide +kernel)
  apart := apart_of_test (by decide +kernel)

/-- A character separates words if its code point is in one of the ranges. -/
theorem isSeparator_iff {c : Char} :
    isSeparator c = true ↔ ∃ s ∈ separatorRanges, s.1 ≤ c.toNat ∧ c.toNat ≤ s.2 := by
  have one (d : Char) : c = d ↔ d.toNat ≤ c.toNat ∧ c.toNat ≤ d.toNat := by
    rw [← Char.toNat_inj]
    omega
  have hyphen : c = '-' ↔ 0x2D ≤ c.toNat ∧ c.toNat ≤ 0x2D := one '-'
  have underscore : c = '_' ↔ 0x5F ≤ c.toNat ∧ c.toNat ≤ 0x5F := one '_'
  simp only [isSeparator, isBlank, Bool.or_eq_true, inRanges_iff, beq_iff_eq, separatorRanges,
    List.mem_cons, exists_eq_or_imp, hyphen, underscore]
  rw [or_assoc, or_comm, or_assoc]

section mapCase

variable {runs : List CaseRun} {c : Char}

/-- A character is mapped by no run, or by one. -/
theorem mapCase_cases (runs : List CaseRun) (c : Char) :
    ((∀ r ∈ runs, r.image? c.toNat = none) ∧ mapCase runs c = c) ∨
      ∃ r ∈ runs, ∃ m, r.image? c.toNat = some m ∧ mapCase runs c = Char.ofNat m := by
  cases found : runs.findSome? (·.image? c.toNat) with
  | none => exact .inl ⟨List.findSome?_eq_none_iff.mp found, by rw [mapCase, found]⟩
  | some m =>
      obtain ⟨r, hr, image⟩ := List.exists_of_findSome?_eq_some found
      exact .inr ⟨r, hr, m, image, by rw [mapCase, found]⟩

/-- What no run maps stays as it is. -/
theorem mapCase_of_forall (h : ∀ r ∈ runs, r.image? c.toNat = none) : mapCase runs c = c := by
  rw [mapCase, List.findSome?_eq_none_iff.mpr h]

/-- The code point of an image. -/
theorem Settled.toNat_ofNat (h : Settled runs) {r : CaseRun} (hr : r ∈ runs) {n m : Nat}
    (image : r.image? n = some m) : (Char.ofNat m).toNat = m := by
  have bounds := CaseRun.le_image image
  have valid : m.isValidChar := by
    rcases h.valid r hr with low | high
    · exact .inl (by omega)
    · exact .inr (by omega)
  rw [Char.ofNat, dif_pos valid]
  rfl

/-- **Mapping once more** by a settled table changes nothing. -/
theorem Settled.mapCase_mapCase (h : Settled runs) (c : Char) :
    mapCase runs (mapCase runs c) = mapCase runs c := by
  rcases mapCase_cases runs c with ⟨-, same⟩ | ⟨r, hr, m, image, mapped⟩
  · rw [same, same]
  · rw [mapped]
    refine mapCase_of_forall fun r' hr' => ?_
    rw [h.toNat_ofNat hr image]
    exact CaseRun.image?_eq_none_of_avoids (List.all_eq_true.mp (h.final r hr) r' hr') image

/-- Where a settled table neither maps anything in the given ranges nor to them, a character that it
changes is not in the ranges, before and after. -/
theorem Settled.mapCase_eq_or_of_apart (h : Settled runs) {ranges : List (Nat × Nat)}
    (apart : ∀ r ∈ runs, ∀ s ∈ ranges,
      r.misses s.1 s.2 = true ∧ (r.last < s.1 ∨ s.2 < r.first)) (c : Char) :
    mapCase runs c = c ∨
      inRanges ranges c.toNat = false ∧ inRanges ranges (mapCase runs c).toNat = false := by
  rcases mapCase_cases runs c with ⟨-, same⟩ | ⟨r, hr, m, image, mapped⟩
  · exact .inl same
  · obtain ⟨first, last, -, -⟩ := CaseRun.image?_eq_some_iff.mp image
    refine .inr ⟨?_, ?_⟩
    · rw [Bool.eq_false_iff, Ne, inRanges_iff]
      rintro ⟨s, hs, lo, hi⟩
      have outside := (apart r hr s hs).2
      omega
    · rw [mapped, Bool.eq_false_iff, Ne, inRanges_iff, h.toNat_ofNat hr image]
      rintro ⟨s, hs, inside⟩
      exact CaseRun.not_mem_of_misses (apart r hr s hs).1 image inside

/-- What a settled table changes is no separator, before and after. -/
theorem Settled.mapCase_eq_or (h : Settled runs) (c : Char) :
    mapCase runs c = c ∨ isSeparator c = false ∧ isSeparator (mapCase runs c) = false := by
  have separates (d : Char) : isSeparator d = inRanges separatorRanges d.toNat := by
    rw [Bool.eq_iff_iff, isSeparator_iff, inRanges_iff]
  rw [separates, separates]
  exact h.mapCase_eq_or_of_apart h.apart c

/-- **A settled table keeps words apart**: a character is mapped to a separator exactly if it is
one. -/
theorem Settled.isSeparator_mapCase (h : Settled runs) (c : Char) :
    isSeparator (mapCase runs c) = isSeparator c := by
  rcases h.mapCase_eq_or c with same | ⟨before, after⟩
  · rw [same]
  · rw [before, after]

/-- A settled table leaves separators as they are. -/
theorem Settled.mapCase_of_isSeparator (h : Settled runs) {c : Char} (hc : isSeparator c = true) :
    mapCase runs c = c := by
  rcases h.mapCase_eq_or c with same | ⟨before, -⟩
  · exact same
  · rw [before] at hc
    cases hc

end mapCase

/-! ### Both cases -/

/-- A character in upper case stays as it is. -/
@[simp]
theorem upper_upper (c : Char) : upper (upper c) = upper c := settled_upperRuns.mapCase_mapCase c

/-- A character in lower case stays as it is. -/
@[simp]
theorem lower_lower (c : Char) : lower (lower c) = lower c := settled_lowerRuns.mapCase_mapCase c

/-- A character separates words in upper case if it does so as it is. -/
@[simp]
theorem isSeparator_upper (c : Char) : isSeparator (upper c) = isSeparator c :=
  settled_upperRuns.isSeparator_mapCase c

/-- A character separates words in lower case if it does so as it is. -/
@[simp]
theorem isSeparator_lower (c : Char) : isSeparator (lower c) = isSeparator c :=
  settled_lowerRuns.isSeparator_mapCase c

/-- A separator stays as it is in upper case. -/
theorem upper_of_isSeparator {c : Char} (h : isSeparator c = true) : upper c = c :=
  settled_upperRuns.mapCase_of_isSeparator h

end ProcessStubs.Text
