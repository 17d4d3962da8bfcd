import ProcessStubs.Proofs.CaseImages
import ProcessStubs.Proofs.ModulePath
import ProcessStubs.Stub.Mapping

/-!
# Capital names

The interface of a bean has the name of the bean with its first character in upper case. If bean and
method have names that can be used, so has the interface, with three exceptions: `none`, `true` and
`false` become reserved words. Nothing else does, and no identifier stops being one.

Both hold over all characters, because the table of capital letters shows it. All images of a run
lie in one range of characters that may begin an identifier, or no character of the run may begin
one, or the run is short enough to be looked at character by character. And what is mapped to a
given character can be read off the table backwards, so that the names that become reserved words
can be listed.

## Main definitions

* `CaseRun.staysIn`: a test by which a run leads out of none of the ranges it leads from.
* `CaseRun.source?`: a run read backwards.
* `risingTo`: the names whose first character the table of capital letters changes so that they
  become the given one.

## Main results

* `isIdentifier_capitalized`: an identifier stays one.
* `isKeyword_capitalized_iff`: which names become reserved words.
* `Stub.unusableName?_ofBeanCall`: which well-named beans have an interface that can be written.
-/

namespace ProcessStubs

open Text

namespace Text

variable {s : String} {c d : Char}

namespace CaseRun

variable {r : CaseRun} {n m : Nat}

/-- Whether all images of a run are in one of the ranges of a part of a table. The last one tells
first whether the part reaches far enough. -/
def endsIn (r : CaseRun) (part : List (Nat × Nat)) : Bool :=
  part.getLast?.any (fun range => r.reach.ble range.2) &&
    part.any fun range => range.1.ble r.target && r.reach.ble range.2

/-- Whether a run maps no character of the ranges to one outside of them: all images are in one of
the ranges, or no character of the run is, or each one that is has an image that is. The ranges come
in parts. -/
def staysIn (r : CaseRun) (parts : List (List (Nat × Nat))) : Bool :=
  parts.any r.endsIn ||
    parts.flatten.all (fun range => r.last.blt range.1 || range.2.blt r.first) ||
    (List.range' r.first (r.last + 1 - r.first)).all fun n =>
      !inRanges parts.flatten n || (r.image? n).all (inRanges parts.flatten)

/-- A run that stays in the ranges maps what is in them into them. -/
theorem inRanges_image {parts : List (List (Nat × Nat))} (stays : r.staysIn parts = true)
    (image : r.image? n = some m) (inside : inRanges parts.flatten n = true) :
    inRanges parts.flatten m = true := by
  obtain ⟨first, last, -, -⟩ := image?_eq_some_iff.mp image
  rw [staysIn, Bool.or_eq_true, Bool.or_eq_true] at stays
  rcases stays with (within | outside) | pointwise
  · obtain ⟨part, hpart, ends⟩ := List.any_eq_true.mp within
    rw [endsIn, Bool.and_eq_true] at ends
    obtain ⟨range, hrange, covers⟩ := List.any_eq_true.mp ends.2
    rw [Bool.and_eq_true, Nat.ble_eq, Nat.ble_eq] at covers
    have between := le_image image
    exact inRanges_iff.mpr
      ⟨range, List.mem_flatten_of_mem hpart hrange, by omega, by omega⟩
  · obtain ⟨range, hrange, lo, hi⟩ := inRanges_iff.mp inside
    have apart := List.all_eq_true.mp outside range hrange
    rw [Bool.or_eq_true, Nat.blt_eq, Nat.blt_eq] at apart
    omega
  · have mem : n ∈ List.range' r.first (r.last + 1 - r.first) :=
      List.mem_range'_1.mpr (by omega)
    have one := List.all_eq_true.mp pointwise n mem
    rwa [inside, image, Bool.not_true, Bool.false_or] at one

/-- The character that a run maps to the given one. -/
def source? (r : CaseRun) (m : Nat) : Option Nat :=
  if r.target ≤ m && m ≤ r.reach && (m - r.target) % r.step == 0 then
    some (r.first + (m - r.target))
  else none

/-- An image is led back to what it is the image of. -/
theorem source?_of_image? (image : r.image? n = some m) : r.source? m = some n := by
  have between := le_image image
  obtain ⟨first, last, steps, rfl⟩ := image?_eq_some_iff.mp image
  rw [source?, Nat.add_sub_cancel_left, steps, decide_eq_true between.1,
    decide_eq_true between.2]
  simp only [Bool.and_self, beq_self_eq_true, if_true, Option.some.injEq]
  omega

end CaseRun

/-! ### Identifiers -/

/-- The ranges of what may begin an identifier, in parts that lie in one block of 1024 characters
each. -/
def startParts : List (List (Nat × Nat)) :=
  startRanges.splitBy fun range range' => range.1 / 0x400 == range'.1 / 0x400

/-- The table of capital letters maps what may begin an identifier to what may begin one. -/
theorem staysIn_startParts : upperRuns.all (·.staysIn startParts) = true := by decide +kernel

/-- **A capital letter of what may begin an identifier** may begin one. -/
theorem isIdentifierStart_upper (h : isIdentifierStart c = true) :
    isIdentifierStart (upper c) = true := by
  rcases mapCase_cases upperRuns c with ⟨-, same⟩ | ⟨r, hr, m, image, mapped⟩
  · rwa [upper, same]
  · have whole : startParts.flatten = startRanges := List.flatten_splitBy _ _
    have stays := List.all_eq_true.mp staysIn_startParts r hr
    rw [isIdentifierStart, ← whole] at h
    rw [upper, mapped, isIdentifierStart, settled_upperRuns.toNat_ofNat hr image, ← whole]
    exact CaseRun.inRanges_image stays image h

/-- **An identifier stays one** if its first character gets upper case. -/
theorem isIdentifier_capitalized (h : isIdentifier s = true) :
    isIdentifier (capitalized s) = true := by
  rw [isIdentifier] at h
  cases hs : s.toList with
  | nil => simp [hs] at h
  | cons c rest =>
      simp only [hs, Bool.and_eq_true] at h
      simp only [isIdentifier, capitalized, hs, String.toList_ofList, Bool.and_eq_true]
      exact ⟨isIdentifierStart_upper h.1, h.2⟩

/-! ### Reserved words -/

/-- What has the given capital letter is this letter, or is led to it by the table. -/
theorem eq_or_mem_of_upper_eq (h : upper c = d) :
    c = d ∨ c.toNat ∈ upperRuns.filterMap (·.source? d.toNat) := by
  rcases mapCase_cases upperRuns c with ⟨-, same⟩ | ⟨r, hr, m, image, mapped⟩
  · exact .inl (same.symm.trans h)
  · have code : d.toNat = m := by
      rw [← h, upper, mapped, settled_upperRuns.toNat_ofNat hr image]
    refine .inr (List.mem_filterMap.mpr ⟨r, hr, ?_⟩)
    rw [code]
    exact CaseRun.source?_of_image? image

/-- The names whose first character the table of capital letters changes so that they become the
given one. -/
def risingTo (name : String) : List String :=
  match name.toList with
  | [] => []
  | c :: rest =>
    (upperRuns.filterMap (·.source? c.toNat)).map fun n => String.ofList (Char.ofNat n :: rest)

/-- A name becomes itself or what it rises to. -/
theorem eq_or_mem_risingTo (s : String) : s = capitalized s ∨ s ∈ risingTo (capitalized s) := by
  cases hs : s.toList with
  | nil =>
      have empty : s = "" := String.toList_inj.mp hs
      exact .inl (by rw [empty]; rfl)
  | cons c rest =>
      have written : s = String.ofList (c :: rest) := by rw [← hs, String.ofList_toList]
      have rises : capitalized s = String.ofList (upper c :: rest) := by
        simp only [capitalized, hs]
      rw [rises]
      rcases eq_or_mem_of_upper_eq (c := c) rfl with same | led
      · exact .inl (by rw [← same, written])
      · refine .inr ?_
        simp only [risingTo, String.toList_ofList]
        exact List.mem_map.mpr ⟨c.toNat, led, by rw [Char.ofNat_toNat, written]⟩

/-- The names that rise to reserved words. -/
theorem risingTo_keywords : keywords.flatMap risingTo = ["false", "none", "true"] := by
  decide +kernel

/-- **Which names become reserved words** if their first character gets upper case. -/
theorem isKeyword_capitalized_iff (h : isKeyword s = false) :
    isKeyword (capitalized s) = true ↔ s ∈ ["none", "true", "false"] := by
  constructor
  · intro keyword
    rcases eq_or_mem_risingTo s with same | rises
    · rw [← same, h] at keyword
      cases keyword
    · have mem : s ∈ keywords.flatMap risingTo :=
        List.mem_flatMap.mpr ⟨capitalized s, List.contains_iff_mem.mp keyword, rises⟩
      rw [risingTo_keywords] at mem
      simp only [List.mem_cons, List.not_mem_nil, or_false] at mem ⊢
      tauto
  · have rise : ["none", "true", "false"].all (isKeyword ∘ capitalized) = true := by
      decide +kernel
    exact List.all_eq_true.mp rise s

end Text

/-! ### Interfaces of beans -/

namespace Stub

/-- The interface of a bean whose method has a name that can be used is refused for the name of its
type only. -/
theorem unusableName?_ofBeanCall_eq (packageName : String) (source : Option Path) (call : BeanCall)
    (method : isUsableName call.method = true) :
    (ofBeanCall packageName source call).unusableName? =
      if isUsableName (capitalized call.bean) then none
      else some (.unusableName .type (capitalized call.bean)) := by
  cases type : isUsableName (capitalized call.bean) with
  | false => simp [unusableName?, ofBeanCall, type]
  | true => simp [unusableName?, ofBeanCall, type, method]

/-- **Which well-named beans can be written.** If the names of a bean and its method can be used,
then its interface is refused exactly if the bean is one of three, and for the name of the type. For
an identifier stays one if its first character gets upper case, and other names become reserved
words only in these three cases. -/
theorem unusableName?_ofBeanCall (packageName : String) (source : Option Path)
    (call : BeanCall) (bean : isUsableName call.bean = true)
    (method : isUsableName call.method = true) :
    ((ofBeanCall packageName source call).unusableName? = none ↔
      call.bean ∉ ["none", "true", "false"]) ∧
    (call.bean ∈ ["none", "true", "false"] →
      (ofBeanCall packageName source call).unusableName? =
        some (.unusableName .type (capitalized call.bean))) ∧
    (∀ s, isIdentifier s = true → isIdentifier (capitalized s) = true) ∧
    ∀ s, isKeyword s = false →
      (isKeyword (capitalized s) = true ↔ s ∈ ["none", "true", "false"]) := by
  rw [isUsableName, Bool.and_eq_true, Bool.not_eq_true'] at bean
  obtain ⟨identifier, ordinary⟩ := bean
  have type : isUsableName (capitalized call.bean) = !isKeyword (capitalized call.bean) := by
    rw [isUsableName, isIdentifier_capitalized identifier, Bool.true_and]
  have rises := isKeyword_capitalized_iff ordinary
  rw [unusableName?_ofBeanCall_eq packageName source call method, type, ← rises]
  refine ⟨?_, ?_, fun _ => isIdentifier_capitalized, fun _ => isKeyword_capitalized_iff⟩
  · cases isKeyword (capitalized call.bean) <;> simp
  · intro keyword
    rw [keyword]
    rfl

/-- A bean whose long s gets upper case can be written, and a bean called `none` cannot. -/
theorem unusableName?_ofBeanCall_longS :
    (isUsableName "ſender" = true ∧ isUsableName "none" = true ∧ isUsableName "send" = true) ∧
    (ofBeanCall "generated" none ⟨"ſender", "send"⟩).unusableName? = none ∧
    (ofBeanCall "generated" none ⟨"none", "send"⟩).unusableName? =
      some (.unusableName .type "None") := by
  have sender : isUsableName "ſender" = true := by decide +kernel
  have nothing : isUsableName "none" = true := by decide +kernel
  have send : isUsableName "send" = true := by decide +kernel
  have accepted :=
    (unusableName?_ofBeanCall "generated" none ⟨"ſender", "send"⟩ sender send).1.mpr (by decide)
  have refused :=
    (unusableName?_ofBeanCall "generated" none ⟨"none", "send"⟩ nothing send).2.1 (by decide)
  have type : capitalized "none" = "None" := by decide +kernel
  exact ⟨⟨sender, nothing, send⟩, accepted, by rw [refused, type]⟩

end Stub

end ProcessStubs
