import Mathlib.Algebra.Order.Ring.Int
import Mathlib.Data.List.Induction
import ProcessStubs.Proofs.Discovered
import ProcessStubs.Proofs.Frozen

/-!
# Leaving out repeated patterns

Freezing keeps each pattern of a draft where it is given first, while the last pattern that matches
decides about a document. So a repetition is left out safely unless it is the repetition that
decides: a pattern is given, then one that says the opposite, then the first one again. Of such
patterns the one that was new last decides after freezing, instead of the one that was given last.

## Main definitions

* `Exclusion.LastMatch`: the line that decides about a path.
* `Exclusion.NewestMatch`: the line that decides once repetitions are left out.
* `Exclusion.Overturned`: the two say the opposite.
* `FileTree.Decided`: a document that patterns decide about.

## Main results

* `Exclusion.linesExclude_eraseDups_iff`: decisions stay unless they are overturned.
* `Exclusion.Overturned.exists_between`: what it takes that a decision is overturned.
* `FileTree.discover_distinctEntries`: then documents are found alike, repetitions or not.
* `FileTree.not_overturned_of_files_eq`: and only then.
* `Draft.discover_of_freeze_iff`: both for frozen settings.
-/

namespace ProcessStubs

open Exclusion

namespace Exclusion

/-- Whether the pattern on a line matches a path. -/
def lineMatches (path : List Char) (line : String) : Bool :=
  (ruleOf? line).any (·.matches path)

/-- Whether the pattern on a line includes what it matches. -/
def lineNegated (line : String) : Bool := (ruleOf? line).any Pattern.negated

/-- Whether the patterns on lines exclude a path. -/
def linesExclude (lines : List String) (path : List Char) : Bool :=
  isExcluded (lines.filterMap ruleOf?) path

/-- The last line that matches a path. -/
def LastMatch (lines : List String) (path : List Char) (line : String) : Prop :=
  ∃ before after, lines = before ++ line :: after ∧ lineMatches path line = true ∧
    ∀ x ∈ after, lineMatches path x = false

/-- Of the lines that match a path, the one that was new last: each line that matches after it was
there before. -/
def NewestMatch (lines : List String) (path : List Char) (line : String) : Prop :=
  ∃ before after, lines = before ++ line :: after ∧ line ∉ before ∧ lineMatches path line = true ∧
    ∀ x ∈ after, lineMatches path x = true → x ∈ before ∨ x = line

/-- The last line that matches a path says the opposite of the one that was new last. -/
def Overturned (lines : List String) (path : List Char) : Prop :=
  ∃ last newest, LastMatch lines path last ∧ NewestMatch lines path newest ∧
    lineNegated last ≠ lineNegated newest

variable {lines : List String} {path : List Char}

/-- One more line decides if it matches, and else the lines before it do. -/
theorem linesExclude_concat (line : String) :
    linesExclude (lines ++ [line]) path =
      if lineMatches path line then !lineNegated line else linesExclude lines path := by
  cases hrule : ruleOf? line with
  | none => simp [linesExclude, lineMatches, hrule]
  | some rule =>
      cases hm : rule.matches path <;>
        simp [linesExclude, isExcluded, lineMatches, lineNegated, hrule, hm]

/-- Lines that do not match leave the decision to those before them. -/
theorem linesExclude_append {after : List String}
    (h : ∀ x ∈ after, lineMatches path x = false) :
    linesExclude (lines ++ after) path = linesExclude lines path := by
  induction after using List.reverseRecOn with
  | nil => rw [List.append_nil]
  | append_singleton after x ih =>
      have unmatched := h x (by simp)
      rw [← List.append_assoc, linesExclude_concat, unmatched, if_neg Bool.false_ne_true]
      exact ih fun y hy => h y (by simp [hy])

/-- Nothing is excluded where no line matches. -/
theorem linesExclude_of_unmatched (h : ∀ x ∈ lines, lineMatches path x = false) :
    linesExclude lines path = false := by
  rw [← List.nil_append lines, linesExclude_append h]
  rfl

/-- The last line that matches decides. -/
theorem LastMatch.linesExclude_eq {line : String} (h : LastMatch lines path line) :
    linesExclude lines path = !lineNegated line := by
  obtain ⟨before, after, rfl, hm, unmatched⟩ := h
  rw [List.append_cons, linesExclude_append unmatched, linesExclude_concat, if_pos hm]

/-- If a line matches, there is a last one that does. -/
theorem exists_lastMatch {line : String} (hmem : line ∈ lines)
    (hm : lineMatches path line = true) : ∃ last, LastMatch lines path last := by
  induction lines using List.reverseRecOn with
  | nil => cases hmem
  | append_singleton lines x ih =>
      cases hx : lineMatches path x with
      | true => exact ⟨x, lines, [], rfl, hx, by simp⟩
      | false =>
          rcases List.mem_append.mp hmem with hmem | hmem
          · obtain ⟨last, before, after, rfl, hlast, unmatched⟩ := ih hmem
            refine ⟨last, before, after ++ [x], by simp, hlast, ?_⟩
            intro y hy
            rcases List.mem_append.mp hy with hy | hy
            · exact unmatched y hy
            · rw [List.mem_singleton.mp hy, hx]
          · rw [List.mem_singleton.mp hmem, hx] at hm
            cases hm

/-- If a line matches, one of those that match was new last. -/
theorem exists_newestMatch {line : String} (hmem : line ∈ lines)
    (hm : lineMatches path line = true) : ∃ newest, NewestMatch lines path newest := by
  induction lines using List.reverseRecOn with
  | nil => cases hmem
  | append_singleton lines x ih =>
      by_cases new : x ∉ lines ∧ lineMatches path x = true
      · exact ⟨x, lines, [], rfl, new.1, new.2, by simp⟩
      · -- The line that comes last does not match, or it was there before.
        have known : lineMatches path x = true → x ∈ lines := fun hx => by_contra fun hnew =>
          new ⟨hnew, hx⟩
        have hmem : line ∈ lines := by
          rcases List.mem_append.mp hmem with hmem | hmem
          · exact hmem
          · rw [List.mem_singleton.mp hmem] at hm ⊢
            exact known hm
        obtain ⟨newest, before, after, rfl, absent, hnewest, old⟩ := ih hmem
        refine ⟨newest, before, after ++ [x], by simp, absent, hnewest, ?_⟩
        intro y hy hmatch
        rcases List.mem_append.mp hy with hy | hy
        · exact old y hy hmatch
        · rw [List.mem_singleton.mp hy] at hmatch ⊢
          rcases List.mem_append.mp (known hmatch) with hx | hx
          · exact .inl hx
          · rcases List.mem_cons.mp hx with rfl | hx
            · exact .inr rfl
            · exact old x hx hmatch

/-- Once repetitions are left out, the line that was new last is the last one. -/
theorem NewestMatch.lastMatch_eraseDups {line : String} (h : NewestMatch lines path line) :
    LastMatch lines.eraseDups path line := by
  obtain ⟨before, after, rfl, absent, hm, old⟩ := h
  rw [List.eraseDups_append, List.cons_removeAll, if_pos (by simpa using absent),
    List.eraseDups_cons]
  refine ⟨_, _, rfl, hm, ?_⟩
  intro x hx
  rw [List.mem_eraseDups, List.mem_filter] at hx
  obtain ⟨hx, other⟩ := hx
  have fresh : x ∈ after ∧ x ∉ before := by simpa [List.removeAll] using hx
  by_contra hmatch
  rcases old x fresh.1 (by simpa using hmatch) with hbefore | rfl
  · exact fresh.2 hbefore
  · simp at other

/-- **Leaving out repetitions keeps a decision** unless it is overturned. -/
theorem linesExclude_eraseDups_iff :
    linesExclude lines.eraseDups path = linesExclude lines path ↔ ¬ Overturned lines path := by
  by_cases some_match : ∃ line ∈ lines, lineMatches path line = true
  · obtain ⟨line, hmem, hm⟩ := some_match
    obtain ⟨last, hlast⟩ := exists_lastMatch hmem hm
    obtain ⟨newest, hnewest⟩ := exists_newestMatch hmem hm
    have decided := hnewest.lastMatch_eraseDups.linesExclude_eq
    rw [hlast.linesExclude_eq, decided]
    constructor
    · rintro same ⟨last', newest', hlast', hnewest', opposite⟩
      have first := hlast.linesExclude_eq.symm.trans hlast'.linesExclude_eq
      have second := decided.symm.trans hnewest'.lastMatch_eraseDups.linesExclude_eq
      exact opposite (Bool.not_inj (first.symm.trans (same.symm.trans second)))
    · intro kept
      by_contra opposite
      exact kept ⟨last, newest, hlast, hnewest, fun same => opposite (by rw [same])⟩
  · have unmatched : ∀ x ∈ lines, lineMatches path x = false := by
      intro x hx
      by_contra hmatch
      exact some_match ⟨x, hx, by simpa using hmatch⟩
    have distinct : ∀ x ∈ lines.eraseDups, lineMatches path x = false := fun x hx =>
      unmatched x (List.mem_eraseDups.mp hx)
    rw [linesExclude_of_unmatched unmatched, linesExclude_of_unmatched distinct]
    refine iff_of_true rfl ?_
    rintro ⟨last, newest, ⟨before, after, rfl, hm, -⟩, -, -⟩
    rw [unmatched last (by simp)] at hm
    cases hm

/-- **A decision is overturned only by a line that is given again** after a line that says the
opposite and was new between the two. -/
theorem Overturned.exists_between (h : Overturned lines path) :
    ∃ line other start middle stop, lines = start ++ other :: (middle ++ line :: stop) ∧
      line ∈ start ∧ other ∉ start ∧ lineMatches path line = true ∧
      lineMatches path other = true ∧ lineNegated line ≠ lineNegated other := by
  obtain ⟨last, newest, ⟨before, after, hlines, hlast, unmatched⟩,
    ⟨start, rest, rfl, absent, hnewest, old⟩, opposite⟩ := h
  have other : last ≠ newest := fun same => opposite (by rw [same])
  -- The line that was new last matches, so it does not stand after the last one that does.
  have later : last ∈ rest := by
    have earlier : newest ∉ after := fun hmem => by simp [unmatched newest hmem] at hnewest
    rcases List.append_eq_append_iff.mp hlines with ⟨between, -, hrest⟩ | ⟨between, -, hrest⟩
    · rcases List.cons_eq_append_iff.mp hrest with ⟨rfl, heq⟩ | ⟨between, rfl, rfl⟩
      · cases heq
        exact absurd rfl other
      · simp
    · rcases List.cons_eq_append_iff.mp hrest with ⟨rfl, heq⟩ | ⟨between, rfl, hafter⟩
      · cases heq
        exact absurd rfl other
      · exact absurd (by simp [hafter]) earlier
  obtain ⟨middle, stop, rfl⟩ := List.append_of_mem later
  have again : last ∈ start := (old last later hlast).resolve_right other
  exact ⟨last, newest, start, middle, stop, rfl, again, absent, hlast, hnewest, opposite⟩

end Exclusion

/-! ### Values that are the same entry -/

/-- A number that equals an integer is zero exactly if the integer is. -/
theorem Binary64.isZero_of_isInteger {x : Binary64} {n : Int} (h : x.isInteger n = true) :
    x.isZero = (n == 0) := by
  cases x with
  | finite negative significand exponent =>
      have equal := eq_of_beq h
      rw [isZero, Bool.eq_iff_iff, beq_iff_eq, beq_iff_eq]
      constructor
      · rintro rfl
        simpa using equal.symm
      · rintro rfl
        cases negative <;> simpa using equal
  | infinite negative => cases h
  | nan => cases h

/-- Numbers of the same value are zero together. -/
theorem Binary64.isZero_of_sameValue {x y : Binary64} (h : x.sameValue y = true) :
    x.isZero = y.isZero := by
  cases x with
  | nan => cases h
  | infinite n =>
      cases y with
      | finite n' s' e' => cases h
      | _ => rfl
  | finite n s e =>
      cases y with
      | finite n' s' e' =>
          rw [isZero, isZero, Bool.eq_iff_iff, beq_iff_eq, beq_iff_eq]
          rcases Bool.or_eq_true_iff.mp h with h | h
          · obtain ⟨hs, hs'⟩ := Bool.and_eq_true_iff.mp h
            exact iff_of_true (eq_of_beq hs) (eq_of_beq hs')
          · have equal := eq_of_beq (Bool.and_eq_true_iff.mp h).2
            constructor
            · rintro rfl
              simpa using equal.symm
            · rintro rfl
              simpa using equal
      | _ => cases h

/-- A number counts as true unless it is zero. -/
theorem Value.isTrue_of_integer? {v : Value} {n : Int} (h : v.integer? = some n) :
    v.isTrue = (n != 0) := by
  cases v with
  | boolean b =>
      cases h
      cases b <;> rfl
  | integer m =>
      cases h
      rfl
  | _ => cases h

/-- Values that are the same entry of a set count as true together. -/
theorem Value.isTrue_of_sameEntry {v w : Value} (h : v.sameEntry w = true) :
    v.isTrue = w.isTrue := by
  unfold sameEntry at h
  cases hv : v.integer? with
  | some m =>
      rw [isTrue_of_integer? hv]
      cases hw : w.integer? with
      | some n =>
          rw [hv, hw] at h
          rw [isTrue_of_integer? hw, eq_of_beq h]
      | none =>
          rw [hv, hw] at h
          cases w with
          | real y => simp [isTrue, Binary64.isZero_of_isInteger h, bne]
          | _ => cases h
  | none =>
      cases hw : w.integer? with
      | some n =>
          rw [hv, hw] at h
          rw [isTrue_of_integer? hw]
          cases v with
          | real x => simp [isTrue, Binary64.isZero_of_isInteger h, bne]
          | _ => cases h
      | none =>
          rw [hv, hw] at h
          dsimp only at h
          split at h
          · rfl
          · next x y => simp [isTrue, Binary64.isZero_of_sameValue h]
          · rw [eq_of_beq h]
          · rfl
          · cases h

/-- A value that holds a text is that text. -/
theorem Value.eq_of_text? {v : Value} {line : String} (h : v.text? = some line) :
    v = .text line := by
  cases v with
  | text line' => rw [Option.some.inj h]
  | _ => cases h

/-- Values that are the same entry of a set are the same text, if one of them is a text. -/
theorem Value.text?_of_sameEntry {v w : Value} (h : v.sameEntry w = true) : v.text? = w.text? := by
  cases v with
  | text s =>
      cases w with
      | text s' => exact congrArg some (eq_of_beq h)
      | _ => cases h
  | _ =>
      cases w with
      | text s' => cases h
      | _ => rfl

/-- If a value can be used as a pattern, so can each one that is the same entry. -/
theorem Value.patternFault?_of_sameEntry {v w : Value} (h : v.sameEntry w = true)
    (usable : v.patternFault? = none) : w.patternFault? = none := by
  have same := text?_of_sameEntry h
  cases htext : v.text? with
  | some line =>
      have hw : w.text? = some line := same ▸ htext
      rwa [eq_of_text? hw, ← eq_of_text? htext]
  | none =>
      -- What is no text can be used only if it does not count as true.
      have skipped {u : Value} (hu : u.text? = none) :
          u.patternFault? = none ↔ u.isTrue = false := by
        cases u with
        | text line => cases hu
        | _ => simp [patternFault?, rule]
      rwa [skipped (same ▸ htext), ← isTrue_of_sameEntry h, ← skipped htext]

/-- A value comes after the others unless it is the same entry as one of them. -/
theorem Draft.distinctEntries_concat (l : List Value) (v : Value) :
    distinctEntries (l ++ [v]) =
      if (distinctEntries l).any (·.sameEntry v) then distinctEntries l
      else distinctEntries l ++ [v] := by
  rw [distinctEntries, List.foldl_append]
  rfl

/-- The first value that cannot be used as a pattern is kept. -/
theorem Draft.findSome?_distinctEntries (l : List Value) :
    (distinctEntries l).findSome? Value.patternFault? = l.findSome? Value.patternFault? := by
  induction l using List.reverseRecOn with
  | nil => rfl
  | append_singleton l v ih =>
      rw [distinctEntries_concat, List.findSome?_append, ← ih]
      split
      · next again =>
          obtain ⟨w, hw, same⟩ := List.any_eq_true.mp again
          cases found : (distinctEntries l).findSome? Value.patternFault? with
          | some fault => rfl
          | none =>
              have usable := List.findSome?_eq_none_iff.mp found w hw
              simp [Value.patternFault?_of_sameEntry same usable]
      · rw [List.findSome?_append]

/-- A text is the same entry as one of some values exactly if it is one of the texts among them. -/
theorem Value.any_sameEntry_text {l : List Value} {line : String} :
    l.any (·.sameEntry (.text line)) = true ↔ line ∈ l.filterMap text? := by
  rw [List.any_eq_true, List.mem_filterMap]
  constructor
  · rintro ⟨v, hv, same⟩
    exact ⟨v, hv, text?_of_sameEntry same⟩
  · rintro ⟨v, hv, htext⟩
    rw [eq_of_text? htext] at hv
    exact ⟨_, hv, beq_self_eq_true line⟩

/-- The lines among the values are kept where they are given first. -/
theorem Draft.filterMap_text?_distinctEntries (l : List Value) :
    (distinctEntries l).filterMap Value.text? = (l.filterMap Value.text?).eraseDups := by
  induction l using List.reverseRecOn with
  | nil => rfl
  | append_singleton l v ih =>
      rw [distinctEntries_concat, List.filterMap_append, List.eraseDups_append, ← ih]
      cases htext : v.text? with
      | none =>
          have last : [v].filterMap Value.text? = [] := by simp [htext]
          rw [last, List.nil_removeAll, List.eraseDups_nil, List.append_nil]
          split
          · rfl
          · rw [List.filterMap_append, last, List.append_nil]
      | some line =>
          have last : [v].filterMap Value.text? = [line] := by simp [htext]
          have known : (distinctEntries l).any (·.sameEntry v) = true ↔
              line ∈ l.filterMap Value.text? := by
            rw [Value.eq_of_text? htext, Value.any_sameEntry_text, ih, List.mem_eraseDups]
          rw [last, List.cons_removeAll, List.nil_removeAll]
          by_cases again : line ∈ l.filterMap Value.text?
          · rw [if_pos (known.mpr again), if_neg (by simpa using again)]
            simp
          · rw [if_neg (mt known.mp again), if_pos (by simpa using again), List.filterMap_append,
              last]
            rfl

/-! ### Documents -/

namespace FileTree

/-- Patterns decide about a document: looking for documents goes well and comes across it, and what
it is matched as is this text. -/
structure Decided (t : FileTree) (root : Path) (excludes : List Value) (p : Path)
    (text : List Char) : Prop where
  located : ∃ l documents, t.locate .target root = .ok (.taken l .directory) ∧
    t.documentsBelow root l = .ok documents ∧ p ∈ documents
  succeeds : ∃ found, t.discover root excludes = .ok found
  matched : t.matchText root p = .ok text

variable {t : FileTree} {root : Path} {excludes : List Value}

/-- If no decision is overturned, looking for documents comes to the same without repetitions. -/
theorem discover_distinctEntries
    (h : ∀ p text, t.Decided root excludes p text →
      ¬ Overturned (excludes.filterMap Value.text?) text) :
    t.discover root (Draft.distinctEntries excludes) = t.discover root excludes := by
  by_cases directory : ∃ l, t.locate .target root = .ok (.taken l .directory)
  · obtain ⟨l, hl⟩ := directory
    cases whole : t.discover root excludes with
    | error fault =>
        rw [discover_eq_error_iff hl] at whole ⊢
        rwa [Draft.findSome?_distinctEntries]
    | ok found =>
        obtain ⟨documents, hdocuments, usable, ⟨texts, htexts⟩, rfl⟩ :=
          (discover_eq_ok_iff hl).mp whole
        refine (discover_eq_ok_iff hl).mpr ⟨documents, hdocuments, ?_, ⟨texts, htexts⟩, ?_⟩
        · rwa [Draft.findSome?_distinctEntries]
        · rw [Draft.filterMap_text?_distinctEntries]
          refine selection_congr ?_
          intro p hp
          obtain ⟨text, -, htext⟩ := (exists_of_mapM_eq_ok htexts).1 p hp
          rw [accepts_isExcludedFrom htext, accepts_isExcludedFrom htext]
          refine (linesExclude_eraseDups_iff.mpr (h p text ?_)).symm
          exact ⟨⟨l, documents, hl, hdocuments, hp⟩, ⟨_, whole⟩, htext⟩
  · exact discover_of_not_directory (fun l hl => directory ⟨l, hl⟩) _ _

/-- If looking for documents finds the same ones without repetitions, no decision is overturned. -/
theorem not_overturned_of_files_eq {p : Path} {text : List Char}
    (h : (t.discover root (Draft.distinctEntries excludes)).map Discovery.files =
      (t.discover root excludes).map Discovery.files)
    (decided : t.Decided root excludes p text) :
    ¬ Overturned (excludes.filterMap Value.text?) text := by
  obtain ⟨⟨l, documents, hl, hdocuments, hp⟩, ⟨found, whole⟩, htext⟩ := decided
  obtain ⟨documents', hdocuments', usable, texts, rfl⟩ := (discover_eq_ok_iff hl).mp whole
  cases hdocuments.symm.trans hdocuments'
  have distinct : t.discover root (Draft.distinctEntries excludes) = .ok _ :=
    (discover_eq_ok_iff hl).mpr
      ⟨documents, hdocuments, by rwa [Draft.findSome?_distinctEntries], texts, rfl⟩
  rw [whole, distinct, Draft.filterMap_text?_distinctEntries] at h
  have files := congrArg (p ∈ ·) (Except.ok.inj h)
  simp only [mem_files_selection htext, hp, true_and, eq_iff_iff] at files
  refine linesExclude_eraseDups_iff.mp ?_
  rw [linesExclude, linesExclude]
  simpa using not_congr files

end FileTree

/-- **Frozen settings find the documents of the whole draft** exactly if no decision is overturned,
and then looking for documents comes to the same altogether. -/
theorem Draft.discover_of_freeze_iff {draft : Draft} {tree : FileTree} {s : Settings}
    (h : draft.freeze tree = .ok s) (t : FileTree) :
    let kept := ∀ p text, t.Decided s.sourceDirectory draft.excludePatterns p text →
      ¬ Overturned (draft.excludePatterns.filterMap Value.text?) text
    ((t.discover s.sourceDirectory s.excludePatterns).map Discovery.files =
      (t.discover s.sourceDirectory draft.excludePatterns).map Discovery.files ↔ kept) ∧
    (kept → t.discover s.sourceDirectory s.excludePatterns =
      t.discover s.sourceDirectory draft.excludePatterns) := by
  intro kept
  obtain ⟨-, -, -, rfl⟩ := freeze_eq_ok_iff.mp h
  have same (hkept : kept) := FileTree.discover_distinctEntries hkept
  refine ⟨⟨?_, ?_⟩, same⟩
  · intro files p text decided
    exact FileTree.not_overturned_of_files_eq files decided
  · intro hkept
    exact congrArg (Except.map Discovery.files) (same hkept)

/-- With a pattern that is repeated, and none that says the opposite, the same is found. -/
theorem Draft.discover_of_freeze_iff_repeated :
    let draft := excluding ⟨.root, []⟩ ["*.bpmn", "*.bpmn"]
    let s := draft.settings FileTree.oneDocument
    draft.freeze FileTree.oneDocument = .ok s ∧
      FileTree.oneDocument.discover s.sourceDirectory s.excludePatterns =
        FileTree.oneDocument.discover s.sourceDirectory draft.excludePatterns := by
  intro draft s
  have frozen : draft.freeze FileTree.oneDocument = .ok s := freeze_excluding _ _ _
  refine ⟨frozen, (discover_of_freeze_iff frozen FileTree.oneDocument).2 ?_⟩
  intro p text _ overturned
  obtain ⟨line, other, start, middle, stop, heq, -, -, -, -, opposite⟩ := overturned.exists_between
  have lines : ∀ x ∈ start ++ other :: (middle ++ line :: stop), x = "*.bpmn" := by
    rw [← heq]
    simp [draft, excluding, Value.text?]
  exact opposite (by rw [lines line (by simp), lines other (by simp)])

/-- With a pattern that is repeated after one that says the opposite, a document is found that the
whole list excludes: all documents are excluded, one of them is included again, and in the end all
are excluded. -/
theorem Draft.discover_of_freeze_overturned :
    let draft := excluding ⟨.root, []⟩ ["*.bpmn", "!a.bpmn", "*.bpmn"]
    let s := draft.settings FileTree.oneDocument
    draft.freeze FileTree.oneDocument = .ok s ∧
      (FileTree.oneDocument.discover s.sourceDirectory s.excludePatterns).map Discovery.files =
        .ok [⟨.root, ["a.bpmn"]⟩] ∧
      (FileTree.oneDocument.discover s.sourceDirectory draft.excludePatterns).map
        Discovery.files = .ok [] := by
  intro draft s
  obtain ⟨directory, documents, text⟩ := FileTree.oneDocument_found
  have asked : [⟨.root, ["a.bpmn"]⟩].mapM (FileTree.oneDocument.matchText ⟨.root, []⟩) =
      .ok ["a.bpmn".toList] := by
    simp [text, bind, Except.bind, pure, Except.pure]
  have found (excludes : List Value) (h : excludes.findSome? Value.patternFault? = none) :=
    (FileTree.discover_eq_ok_iff directory).mpr ⟨_, documents, h, ⟨_, asked⟩, rfl⟩
  have decided (patterns : List Pattern) : accepts
      (FileTree.oneDocument.isExcludedFrom ⟨.root, []⟩ patterns) ⟨.root, ["a.bpmn"]⟩ =
        isExcluded patterns "a.bpmn".toList := FileTree.accepts_isExcludedFrom text
  refine ⟨freeze_excluding _ _ _, ?_, ?_⟩
  · have kept := (decided ((s.excludePatterns.filterMap Value.text?).filterMap ruleOf?)).trans
      (show _ = false by decide +kernel)
    have distinct := found s.excludePatterns (by decide +kernel)
    rw [show s.sourceDirectory = ⟨.root, []⟩ from rfl, distinct]
    simp [Except.map, FileTree.selection, kept]
  · have left_out := (decided
      ((draft.excludePatterns.filterMap Value.text?).filterMap ruleOf?)).trans
      (show _ = true by decide +kernel)
    have whole := found draft.excludePatterns (by decide +kernel)
    rw [show s.sourceDirectory = ⟨.root, []⟩ from rfl, whole]
    simp [Except.map, FileTree.selection, left_out]

end ProcessStubs
