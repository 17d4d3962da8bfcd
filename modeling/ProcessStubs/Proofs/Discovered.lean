import ProcessStubs.Discovery
import ProcessStubs.Proofs.KeyedList
import ProcessStubs.Proofs.Scanned
import ProcessStubs.Proofs.Steps

/-!
# What looking for documents comes to

Looking for documents in a directory is three steps that may fail, one after the other: the
documents are collected, the patterns are read, and it is found out what each document is matched
as. Only then patterns decide, and that cannot fail.

Documents are collected if every directory can be scanned and no path with the name of a document
leaves it open whether there is one. Then they are the documents that directories lead to, in strict
order.

## Main definitions

* `Value.patternFault?`: why a value that is given as a pattern cannot be used.
* `Exclusion.ruleOf?`: the pattern on a line, if the line can be used and holds one.
* `FileTree.selection`: what patterns leave of the documents.
* `FileTree.DocumentBelow`: the documents below a directory.
* `FileTree.Walkable`: nothing below a directory keeps its documents from being collected.

## Main results

* `Path.eq_of_pairwise_before`: paths in strict order are determined by what they are.
* `patternsOf_eq`: which values give patterns, and which ones.
* `FileTree.discover_of_directory`: the steps.
* `FileTree.documentsBelow_eq_ok_iff`: when documents are collected, and which ones.
-/

namespace ProcessStubs

open Exclusion

/-! ### Lists of paths in order -/

namespace Path

variable {p q r : Path}

/-- The order of paths is that of their components. -/
theorem le_iff : p.le q = true ↔ (compare p.components q.components).isLE = true := by
  rw [le, bne_iff_ne, ne_eq, Ordering.ne_gt_iff_isLE]

/-- The order of paths is transitive. -/
theorem le_trans (h : p.le q = true) (h' : q.le r = true) : p.le r = true :=
  le_iff.mpr (Std.TransCmp.isLE_trans (le_iff.mp h) (le_iff.mp h'))

/-- Of two paths, one comes before the other or they are equal. -/
theorem le_total (p q : Path) : (p.le q || q.le p) = true := by
  have swapped : compare q.components p.components = (compare p.components q.components).swap :=
    Std.OrientedCmp.eq_swap
  rw [Bool.or_eq_true, le_iff, le_iff, swapped]
  cases compare p.components q.components <;> simp [Ordering.isLE]

/-- Paths that start alike are equal if each comes before the other or is equal to it. -/
theorem le_antisymm (start : p.anchor = q.anchor) (h : p.le q = true) (h' : q.le p = true) :
    p = q := by
  have same := Std.LawfulEqCmp.eq_of_compare
    (Std.OrientedCmp.isLE_antisymm (le_iff.mp h) (le_iff.mp h'))
  obtain ⟨anchor, parts⟩ := p
  obtain ⟨_, parts'⟩ := q
  obtain rfl : anchor = _ := start
  cases absolute : isAbsolute ⟨anchor, parts⟩ with
  | true =>
      have absolute' : isAbsolute ⟨anchor, parts'⟩ = true := absolute
      simp only [components, absolute, absolute', if_true, List.cons.injEq, true_and] at same
      rw [same]
  | false =>
      have absolute' : isAbsolute ⟨anchor, parts'⟩ = false := absolute
      simpa [components, absolute, absolute'] using same

/-- A path comes before another one, component by component. -/
def Before (p q : Path) : Prop := compare p.components q.components = .lt

/-- Of two different paths that start alike, the one that does not come later comes before. -/
theorem before_of_le_of_ne {p q : Path} (start : p.anchor = q.anchor) (h : p.le q = true)
    (different : p ≠ q) : p.Before q := by
  have later : ¬ q.le p = true := fun h' => different (le_antisymm start h h')
  rw [le_iff] at later
  exact Std.OrientedCmp.gt_iff_lt.mp (by simpa using later)

/-- No path comes before itself. -/
theorem Before.ne {p q : Path} (h : p.Before q) : p ≠ q := by
  rintro rfl
  have self : compare p.components p.components = .eq := Std.ReflCmp.compare_self
  cases self.symm.trans h

/-- **Paths that start alike**, sorted without repetitions, are in strict order. -/
theorem pairwise_before_mergeSort {l : List Path} (anchor : Anchor)
    (start : ∀ p ∈ l, p.anchor = anchor) : (l.eraseDups.mergeSort le).Pairwise Before := by
  have sorted : (l.eraseDups.mergeSort le).Pairwise fun p q => p.le q = true :=
    List.pairwise_mergeSort (fun p q r => le_trans (p := p)) le_total _
  have distinct : (l.eraseDups.mergeSort le).Nodup :=
    (List.mergeSort_perm _ _).nodup_iff.mpr (nodup_eraseDups l)
  have anchored : ∀ p ∈ l.eraseDups.mergeSort le, p.anchor = anchor := by
    intro p hp
    rw [List.mem_mergeSort, List.mem_eraseDups] at hp
    exact start p hp
  refine (sorted.and distinct).imp_of_mem ?_
  rintro p q hp hq ⟨le, different⟩
  exact before_of_le_of_ne ((anchored p hp).trans (anchored q hq).symm) le different

/-- **Paths in strict order** are the same if their members are. -/
theorem eq_of_pairwise_before {l l' : List Path} (ordered : l.Pairwise Before)
    (ordered' : l'.Pairwise Before) (same : ∀ p, p ∈ l ↔ p ∈ l') : l = l' := by
  have permuted : l.Perm l' :=
    (List.perm_ext_iff_of_nodup (ordered.imp Before.ne) (ordered'.imp Before.ne)).mpr same
  refine permuted.eq_of_pairwise (fun p q _ _ first second => ?_) ordered ordered'
  have swapped : compare p.components q.components = .gt := Std.OrientedCmp.gt_of_lt second
  cases first.symm.trans swapped

end Path

/-- The pattern on a line, if the line can be used and holds one. -/
def Exclusion.ruleOf? (line : String) : Option Pattern :=
  match Pattern.ofLine line with
  | .ok rule => rule
  | .error _ => none

/-- The pattern that a value is given as: a text is a line of patterns, and nothing else is. -/
def Value.rule (v : Value) : Except DiscoveryFault (Option Pattern) :=
  match v with
  | .text line => (Pattern.ofLine line).mapError .badPattern
  | _ => .error (.noPattern v)

/-- Why a value that is given as a pattern cannot be used, if it cannot. Nobody asks what a value is
given as that does not count as true. -/
def Value.patternFault? (v : Value) : Option DiscoveryFault :=
  if v.isTrue then
    match v.rule with
    | .ok _ => none
    | .error fault => some fault
  else none

/-- A value that is given as a pattern holds it on its line. -/
theorem Value.bind_of_rule {v : Value} {rule : Option Pattern} (h : v.rule = .ok rule) :
    v.text?.bind ruleOf? = rule := by
  cases v with
  | text line =>
      have read := mapError_eq_ok_iff.mp h
      simp [Value.text?, ruleOf?, read]
  | _ => cases h

/-- A value that does not count as true holds no pattern. -/
theorem Value.bind_of_not_isTrue {v : Value} (h : v.isTrue = false) :
    v.text?.bind ruleOf? = none := by
  cases v with
  | text line =>
      have empty : line = "" := by simpa [Value.isTrue] using h
      rw [empty]
      rfl
  | _ => rfl

/-- The pattern of the first value comes before those of the others. -/
theorem patternsOf_cons (v : Value) (rest : List Value) :
    patternsOf (v :: rest) =
      match v.patternFault? with
      | some fault => .error fault
      | none => (patternsOf rest).map ((v.text?.bind ruleOf?).toList ++ ·) := by
  have reads (given : List Value) : patternsOf given = (do
      let rules ← (given.filter Value.isTrue).mapM Value.rule
      return rules.filterMap id) := rfl
  rw [reads, reads, Value.patternFault?]
  cases htrue : v.isTrue with
  | false =>
      rw [List.filter_cons_of_neg (by simp [htrue]), v.bind_of_not_isTrue htrue]
      cases (rest.filter Value.isTrue).mapM Value.rule <;> rfl
  | true =>
      rw [List.filter_cons_of_pos htrue, List.mapM_cons]
      cases hrule : v.rule with
      | error fault => rfl
      | ok rule =>
          rw [Value.bind_of_rule hrule]
          cases (rest.filter Value.isTrue).mapM Value.rule with
          | error fault => rfl
          | ok rules => cases rule <;> rfl

/-- **Values give patterns** unless one of them cannot be used; the first such one decides. The
patterns are those on the lines among the values. -/
theorem patternsOf_eq (given : List Value) :
    patternsOf given =
      match given.findSome? Value.patternFault? with
      | some fault => .error fault
      | none => .ok ((given.filterMap Value.text?).filterMap ruleOf?) := by
  induction given with
  | nil => rfl
  | cons v rest ih =>
      rw [patternsOf_cons, ih, List.findSome?_cons]
      cases v.patternFault? with
      | some fault => rfl
      | none =>
          cases rest.findSome? Value.patternFault? with
          | some fault => rfl
          | none =>
              cases htext : v.text? with
              | none => simp [Except.map, htext]
              | some line => cases hrule : ruleOf? line <;> simp [Except.map, htext, hrule]

/-- Values give patterns if each of them can be used, and then those on their lines. -/
theorem patternsOf_eq_ok_iff {given : List Value} {patterns : List Pattern} :
    patternsOf given = .ok patterns ↔ given.findSome? Value.patternFault? = none ∧
      patterns = (given.filterMap Value.text?).filterMap ruleOf? := by
  rw [patternsOf_eq]
  cases given.findSome? Value.patternFault? with
  | some fault => simp
  | none => simp [eq_comm]

/-- A text that cannot be used as a pattern is a line that cannot be read. -/
theorem Value.patternFault?_text {line : String} {fault : DiscoveryFault}
    (h : (Value.text line).patternFault? = some fault) :
    ∃ f, Pattern.ofLine line = .error f ∧ fault = .badPattern f := by
  rw [patternFault?] at h
  split at h
  · split at h
    · cases h
    · next unread =>
        cases h
        obtain ⟨f, hf, rfl⟩ := mapError_eq_error_iff.mp unread
        exact ⟨f, hf, rfl⟩
  · cases h

namespace FileTree

variable {t : FileTree} {root : Path}

/-- Patterns decide about a document by what it is matched as. -/
theorem isExcludedFrom_eq_ok_iff {patterns : List Pattern} {p : Path} {excluded : Bool} :
    t.isExcludedFrom root patterns p = .ok excluded ↔
      ∃ text, t.matchText root p = .ok text ∧ isExcluded patterns text = excluded := by
  rw [isExcludedFrom, bind_eq_ok_iff]
  simp [pure, Except.pure]

/-- Patterns fail to decide only where it is not known what a document is matched as. -/
theorem isExcludedFrom_eq_error_iff {patterns : List Pattern} {p : Path} {fault : FileFault} :
    t.isExcludedFrom root patterns p = .error fault ↔ t.matchText root p = .error fault :=
  bind_pure_eq_error_iff

/-- Keeping what is excluded fails exactly as finding out what documents are matched as. -/
theorem filterM_isExcludedFrom_eq_error_iff {patterns : List Pattern} {documents : List Path}
    {fault : FileFault} :
    documents.filterM (t.isExcludedFrom root patterns) = .error fault ↔
      documents.mapM (t.matchText root) = .error fault := by
  have answered (p : Path) : (∃ b, t.isExcludedFrom root patterns p = .ok b) ↔
      ∃ text, t.matchText root p = .ok text := by
    simp only [isExcludedFrom_eq_ok_iff]
    constructor
    · rintro ⟨b, text, htext, -⟩
      exact ⟨text, htext⟩
    · rintro ⟨text, htext⟩
      exact ⟨_, text, htext, rfl⟩
  rw [filterM_eq_error_iff, mapM_eq_error_iff, mapM_eq_error_iff]
  simp only [answered, isExcludedFrom_eq_error_iff]

/-- What patterns leave of the documents. -/
def selection (t : FileTree) (root : Path) (patterns : List Pattern) (documents : List Path) :
    Discovery :=
  let excluded := documents.filter (accepts (t.isExcludedFrom root patterns))
  { files := documents.filter (· ∉ excluded)
    log := excluded.map fun p => ⟨.info, "Excluded by pattern: " ++ p.toString⟩ }

/-- **Looking for documents in a directory.** -/
theorem discover_of_directory {l : Location}
    (h : t.locate .target root = .ok (.taken l .directory)) (excludes : List Value) :
    t.discover root excludes = (do
      let documents ← t.documentsBelow root l
      let patterns ← patternsOf excludes
      let _ ← (documents.mapM (t.matchText root)).mapError .unusable
      return t.selection root patterns documents) := by
  rw [discover, h]
  dsimp only
  cases t.documentsBelow root l with
  | error fault => rfl
  | ok documents =>
      cases patternsOf excludes with
      | error fault => rfl
      | ok patterns =>
          rw [ok_bind, ok_bind, ok_bind, ok_bind]
          cases hkept : documents.filterM (t.isExcludedFrom root patterns) with
          | error fault =>
              rw [filterM_isExcludedFrom_eq_error_iff.mp hkept]
              rfl
          | ok kept =>
              cases htexts : documents.mapM (t.matchText root) with
              | error fault =>
                  rw [filterM_isExcludedFrom_eq_error_iff.mpr htexts] at hkept
                  cases hkept
              | ok texts =>
                  rw [(filterM_eq_ok_iff.mp hkept).2]
                  rfl

/-- **The documents of a directory are found** if they can be collected, all patterns can be used
and it is known what each document is matched as. -/
theorem discover_eq_ok_iff {l : Location} (h : t.locate .target root = .ok (.taken l .directory))
    {excludes : List Value} {found : Discovery} :
    t.discover root excludes = .ok found ↔
      ∃ documents, t.documentsBelow root l = .ok documents ∧
        excludes.findSome? Value.patternFault? = none ∧
        (∃ texts, documents.mapM (t.matchText root) = .ok texts) ∧
        found =
          t.selection root ((excludes.filterMap Value.text?).filterMap ruleOf?) documents := by
  rw [discover_of_directory h, bind_eq_ok_iff, patternsOf_eq]
  simp only [bind_eq_ok_iff, mapError_eq_ok_iff]
  cases excludes.findSome? Value.patternFault? with
  | some fault => simp
  | none => simp [pure, Except.pure, eq_comm]

/-- **The documents of a directory are not found** if they cannot be collected, or else a pattern
cannot be used, or else it is not known what a document is matched as. -/
theorem discover_eq_error_iff {l : Location}
    (h : t.locate .target root = .ok (.taken l .directory)) {excludes : List Value}
    {fault : DiscoveryFault} :
    t.discover root excludes = .error fault ↔
      t.documentsBelow root l = .error fault ∨
      ∃ documents, t.documentsBelow root l = .ok documents ∧
        (excludes.findSome? Value.patternFault? = some fault ∨
        excludes.findSome? Value.patternFault? = none ∧
          ∃ f, documents.mapM (t.matchText root) = .error f ∧ fault = .unusable f) := by
  rw [discover_of_directory h, patternsOf_eq]
  cases t.documentsBelow root l with
  | error f => simp [error_bind]
  | ok documents =>
      rw [ok_bind]
      cases excludes.findSome? Value.patternFault? with
      | some f => simp [error_bind]
      | none =>
          cases htexts : documents.mapM (t.matchText root) with
          | error f => simp [mapError_error, ok_bind, htexts, @eq_comm _ fault]
          | ok texts => simp [mapError_ok, ok_bind, htexts, pure, Except.pure]

/-- Patterns do not matter where no documents are looked for. -/
theorem discover_of_not_directory (h : ∀ l, t.locate .target root ≠ .ok (.taken l .directory))
    (excludes excludes' : List Value) : t.discover root excludes = t.discover root excludes' := by
  rw [discover, discover]
  split
  · rfl
  · rfl
  · next l hl => exact absurd hl (h l)
  · rfl
  · rfl

/-- A document is excluded exactly if patterns exclude what it is matched as. -/
theorem accepts_isExcludedFrom {patterns : List Pattern} {p : Path} {text : List Char}
    (h : t.matchText root p = .ok text) :
    accepts (t.isExcludedFrom root patterns) p = isExcluded patterns text := by
  rw [accepts, isExcludedFrom_eq_ok_iff.mpr ⟨text, h, rfl⟩]

/-- Patterns that decide alike about all documents leave the same ones. -/
theorem selection_congr {patterns patterns' : List Pattern} {documents : List Path}
    (h : ∀ p ∈ documents, accepts (t.isExcludedFrom root patterns) p =
      accepts (t.isExcludedFrom root patterns') p) :
    t.selection root patterns documents = t.selection root patterns' documents := by
  rw [selection, selection, List.filter_congr h]

/-- The documents that are left are those that are not excluded. -/
theorem mem_files_selection {patterns : List Pattern} {documents : List Path} {p : Path}
    {text : List Char} (h : t.matchText root p = .ok text) :
    p ∈ (t.selection root patterns documents).files ↔
      p ∈ documents ∧ isExcluded patterns text = false := by
  simp only [selection, List.mem_filter, accepts_isExcludedFrom h, decide_eq_true_eq]
  constructor
  · rintro ⟨hp, kept⟩
    exact ⟨hp, by simpa using fun excluded => kept ⟨hp, excluded⟩⟩
  · rintro ⟨hp, kept⟩
    exact ⟨hp, fun excluded => by simp [kept] at excluded⟩

/-! ### Documents that are there -/

/-- A path is a document if it has the name of one and leads to a file. -/
theorem isDocument_eq_true_iff {p : Path} :
    t.isDocument p = .ok true ↔ p.isDocumentName = true ∧
      ∃ m e, t.locate .target p = .ok (.taken m e) ∧ e.isFile = true := by
  constructor
  · intro h
    rw [isDocument] at h
    split at h
    · next named =>
        obtain ⟨entry, found, file⟩ := bind_eq_ok_iff.mp h
        rw [lookup] at found
        split at found
        · next l e located =>
            cases found
            exact ⟨named, l, e, located, by simpa [pure, Except.pure] using file⟩
        · cases found
          cases file
        · split at found
          · cases found
          · cases found
            cases file
    · cases h
  · rintro ⟨named, m, e, located, file⟩
    rw [isDocument, if_pos named, isFile, lookup, located]
    exact congrArg Except.ok file

/-- Asking whether there is a document fails exactly for a path with the name of one of which it is
left open what it leads to. -/
theorem isDocument_eq_error_iff {p : Path} {f : FileFault} :
    t.isDocument p = .error f ↔
      p.isDocumentName = true ∧ t.locate .target p = .error f ∧ f.problem.leavesOpen = true := by
  rw [isDocument]
  split
  · next named => rw [isFile, bind_pure_eq_error_iff, lookup_eq_error_iff]; simp [named]
  · next unnamed => simp [unnamed]

/-- **Nothing keeps documents from being collected** below a directory: each directory can be
scanned, and no path with the name of a document leaves open what it leads to. -/
def Walkable (t : FileTree) (root : Path) (l : Location) : Prop :=
  ∀ names e, t.Reached l names e →
    (e.isDirectory = true → t.scanProblem? root names = none) ∧
    (e.isDirectory = false → (root.below names).isDocumentName = true →
      ∀ f, t.locate .target (root.below names) = .error f → f.problem.leavesOpen = false)

/-- **A document below a directory**: directories lead to it, it has the name of a document, and it
is a file or leads to one. -/
structure DocumentBelow (t : FileTree) (root : Path) (l : Location) (p : Path) : Prop where
  reached : ∃ names e, t.Reached l names e ∧ p = root.below names
  named : p.isDocumentName = true
  file : ∃ m e, t.locate .target p = .ok (.taken m e) ∧ e.isFile = true

variable {l : Location} {names : List String} {e : FileEntry} {documents : List Path}

/-- A visit has an answer if the directory can be scanned, or the path does not leave it open
whether there is a document. -/
theorem exists_visit_iff :
    (∃ b, t.visit root (names, e) = .ok b) ↔
      (e.isDirectory = true → t.scanProblem? root names = none) ∧
      (e.isDirectory = false → (root.below names).isDocumentName = true →
        ∀ f, t.locate .target (root.below names) = .error f → f.problem.leavesOpen = false) := by
  rw [visit]
  cases e.isDirectory with
  | true => cases t.scanProblem? root names <;> simp
  | false =>
      have answered : (∃ b, t.isDocument (root.below names) = .ok b) ↔
          ∀ f, t.isDocument (root.below names) ≠ .error f := by
        cases t.isDocument (root.below names) <;> simp
      simp only [Bool.false_eq_true, if_false, mapError_eq_ok_iff, answered, ne_eq,
        isDocument_eq_error_iff, not_and, Bool.not_eq_true, false_imp_iff, true_and, forall_const]
      exact forall_comm

/-- A visit finds a document if it is one and no directory. -/
theorem visit_eq_true_iff : t.visit root (names, e) = .ok true ↔
    e.isDirectory = false ∧ t.isDocument (root.below names) = .ok true := by
  rw [visit]
  cases e.isDirectory with
  | true => cases t.scanProblem? root names <;> simp
  | false => simp [mapError_eq_ok_iff]

/-- A directory that can be scanned is one. -/
theorem exists_locate_of_scanProblem? (h : t.scanProblem? root names = none) :
    ∃ m, t.locate .target (root.below names) = .ok (.taken m .directory) := by
  rw [scanProblem?] at h
  split at h
  · cases h
  · split at h <;> first | exact ⟨_, ‹_›⟩ | cases h

/-- What is found by visits is a document below the directory. -/
theorem exists_visit_iff_documentBelow (walkable : t.Walkable root l) {p : Path} :
    (∃ x ∈ t.below l, t.visit root x = .ok true ∧ root.below x.1 = p) ↔
      t.DocumentBelow root l p := by
  constructor
  · rintro ⟨⟨names, e⟩, found, document, rfl⟩
    obtain ⟨named, file⟩ := isDocument_eq_true_iff.mp (visit_eq_true_iff.mp document).2
    exact ⟨⟨names, e, mem_below_iff_reached.mp found, rfl⟩, named, file⟩
  · rintro ⟨⟨names, e, reached, rfl⟩, named, m, e', located, file⟩
    refine ⟨(names, e), mem_below_iff_reached.mpr reached, visit_eq_true_iff.mpr
      ⟨?_, isDocument_eq_true_iff.mpr ⟨named, m, e', located, file⟩⟩, rfl⟩
    by_contra directory
    obtain ⟨m', located'⟩ :=
      exists_locate_of_scanProblem? ((walkable names e reached).1 (by simpa using directory))
    cases located.symm.trans located'
    cases file

/-- Documents are collected exactly if nothing keeps them from it. -/
theorem exists_documentsBelow_iff :
    (∃ documents, t.documentsBelow root l = .ok documents) ↔ t.Walkable root l := by
  have visits : t.Walkable root l ↔ ∀ x ∈ t.below l, ∃ b, t.visit root x = .ok b := by
    simp only [Walkable, ← exists_visit_iff, ← mem_below_iff_reached, Prod.forall]
  rw [visits]
  simp only [documentsBelow, bind_eq_ok_iff, filterM_eq_ok_iff]
  constructor
  · rintro ⟨_, _, ⟨answered, -⟩, -⟩
    exact answered
  · intro answered
    exact ⟨_, _, ⟨answered, rfl⟩, rfl⟩

/-- **Documents are collected** if nothing keeps them from it. They are the documents below the
directory in strict order. -/
theorem documentsBelow_eq_ok_iff :
    t.documentsBelow root l = .ok documents ↔
      t.Walkable root l ∧ documents.Pairwise Path.Before ∧
        ∀ p, p ∈ documents ↔ t.DocumentBelow root l p := by
  have collected {documents : List Path} (h : t.documentsBelow root l = .ok documents) :
      t.Walkable root l ∧ documents.Pairwise Path.Before ∧
        ∀ p, p ∈ documents ↔ t.DocumentBelow root l p := by
    have walkable := exists_documentsBelow_iff.mp ⟨documents, h⟩
    obtain ⟨found, visited, h⟩ := bind_eq_ok_iff.mp h
    obtain ⟨-, rfl⟩ := filterM_eq_ok_iff.mp visited
    cases h
    refine ⟨walkable, Path.pairwise_before_mergeSort root.anchor fun p hp => ?_, fun p => ?_⟩
    · obtain ⟨x, -, rfl⟩ := List.mem_map.mp hp
      rfl
    · rw [List.mem_mergeSort, List.mem_eraseDups, List.mem_map,
        ← exists_visit_iff_documentBelow walkable]
      simp only [List.mem_filter, accepts_iff, and_assoc]
  refine ⟨collected, ?_⟩
  rintro ⟨walkable, ordered, members⟩
  obtain ⟨documents', h⟩ := exists_documentsBelow_iff.mpr walkable
  obtain ⟨-, ordered', members'⟩ := collected h
  rw [h, Path.eq_of_pairwise_before ordered ordered' fun p => (members p).trans (members' p).symm]

/-- What is collected are the documents below the directory. -/
theorem mem_documentsBelow_iff (h : t.documentsBelow root l = .ok documents) {p : Path} :
    p ∈ documents ↔ t.DocumentBelow root l p :=
  (documentsBelow_eq_ok_iff.mp h).2.2 p

/-- **Documents cannot be collected** only if a directory cannot be scanned, or it is left open what
a path with the name of a document leads to. -/
theorem documentsBelow_eq_error {fault : DiscoveryFault}
    (h : t.documentsBelow root l = .error fault) :
    (∃ names e problem, t.Reached l names e ∧ e.isDirectory = true ∧
      t.scanProblem? root names = some problem ∧
      fault = .notScanned root (root.scanText names) problem) ∨
    ∃ names e f, t.Reached l names e ∧ e.isDirectory = false ∧
      (root.below names).isDocumentName = true ∧
      t.locate .target (root.below names) = .error f ∧ f.problem.leavesOpen = true ∧
      fault = .unusable f := by
  have failed := filterM_eq_error_iff.mp (bind_pure_eq_error_iff.mp h)
  obtain ⟨before, ⟨names, e⟩, after, whole, -, visited⟩ := mapM_eq_error_iff.mp failed
  have reached : t.Reached l names e := mem_below_iff_reached.mp (whole ▸ by simp)
  rw [visit] at visited
  cases directory : e.isDirectory with
  | true =>
      simp only [directory, if_true] at visited
      split at visited
      · next problem scanned =>
          cases visited
          exact .inl ⟨names, e, problem, reached, directory, scanned, rfl⟩
      · cases visited
  | false =>
      simp only [directory, Bool.false_eq_true, if_false] at visited
      obtain ⟨f, asked, rfl⟩ := mapError_eq_error_iff.mp visited
      obtain ⟨named, located, leavesOpen⟩ := isDocument_eq_error_iff.mp asked
      exact .inr ⟨names, e, f, reached, directory, named, located, leavesOpen, rfl⟩

/-- Documents are not found where a directory that is reached cannot be scanned. -/
theorem not_discover_of_scanProblem? (h : t.locate .target root = .ok (.taken l .directory))
    (reached : t.Reached l names e) (directory : e.isDirectory = true) {problem : FileProblem}
    (scanned : t.scanProblem? root names = some problem) (excludes : List Value)
    (found : Discovery) : t.discover root excludes ≠ .ok found := by
  intro discovered
  obtain ⟨documents, collected, -⟩ := (discover_eq_ok_iff h).mp discovered
  have walkable := (documentsBelow_eq_ok_iff.mp collected).1
  cases ((walkable names e reached).1 directory).symm.trans scanned

/-- Documents are not found where a path that is named as that of one leaves open what it leads
to. -/
theorem not_discover_of_leavesOpen (h : t.locate .target root = .ok (.taken l .directory))
    (reached : t.Reached l names e) (other : e.isDirectory = false)
    (named : (root.below names).isDocumentName = true)
    {f : FileFault} (located : t.locate .target (root.below names) = .error f)
    (leavesOpen : f.problem.leavesOpen = true) (excludes : List Value) (found : Discovery) :
    t.discover root excludes ≠ .ok found := by
  intro discovered
  obtain ⟨documents, collected, -⟩ := (discover_eq_ok_iff h).mp discovered
  have walkable := (documentsBelow_eq_ok_iff.mp collected).1
  cases ((walkable names e reached).2 other named f located).symm.trans leavesOpen

/-- A path is written as paths are if directories lead to it from one that is. -/
theorem Reached.isNormal (h : t.Reached l names e) (proper : t.Proper) (normal : root.IsNormal) :
    (root.below names).IsNormal := by
  have entry := (eq_or_mem_of_entryAt? h.entryAt?_eq).resolve_left (by simp [h.ne_nil])
  exact List.forall_mem_append.mpr
    ⟨normal, fun name hname => (proper.named _ entry name (List.mem_append_right _ hname)).1⟩

/-- **It is known what a document is matched as**, since both the directory and the document are
there and so have real paths. -/
theorem exists_matchText (proper : t.Proper) (normal : root.IsNormal) {l m : Location}
    {e e' : FileEntry} (h : t.locate .target root = .ok (.taken l e)) {p : Path}
    (hp : p.IsNormal) (located : t.locate .target p = .ok (.taken m e')) :
    ∃ text, t.matchText root p = .ok text := by
  rw [matchText, realPath_of_locate proper normal h, realPath_of_locate proper hp located, ok_bind,
    ok_bind]
  split
  · exact ⟨_, rfl⟩
  · split <;> exact ⟨_, rfl⟩

/-- It is known what a document is matched as. -/
theorem DocumentBelow.exists_matchText {p : Path} (h : t.DocumentBelow root l p)
    (proper : t.Proper) (normal : root.IsNormal)
    (directory : t.locate .target root = .ok (.taken l .directory)) :
    ∃ text, t.matchText root p = .ok text := by
  obtain ⟨⟨names, e, reached, rfl⟩, -, m, e', located, -⟩ := h
  exact FileTree.exists_matchText proper normal directory (reached.isNormal proper normal) located

/-- It is known of all documents what they are matched as. -/
theorem exists_mapM_matchText (proper : t.Proper) (normal : root.IsNormal)
    (h : t.locate .target root = .ok (.taken l .directory))
    (collected : t.documentsBelow root l = .ok documents) :
    ∃ texts, documents.mapM (t.matchText root) = .ok texts := by
  cases matched : documents.mapM (t.matchText root) with
  | ok texts => exact ⟨texts, rfl⟩
  | error f =>
      obtain ⟨before, p, after, rfl, -, unknown⟩ := mapM_eq_error_iff.mp matched
      have document := (mem_documentsBelow_iff collected).mp
        (List.mem_append_right _ List.mem_cons_self)
      obtain ⟨text, known⟩ := document.exists_matchText proper normal h
      cases unknown.symm.trans known

/-- **Documents that are collected** are all found if there are no patterns. -/
theorem discover_of_collected (proper : t.Proper) (normal : root.IsNormal)
    (h : t.locate .target root = .ok (.taken l .directory))
    (collected : t.documentsBelow root l = .ok documents) :
    t.discover root [] = .ok ⟨documents, []⟩ := by
  have kept : documents.filter (accepts (t.isExcludedFrom root [])) = [] := by
    refine List.filter_eq_nil_iff.mpr fun p hp => ?_
    obtain ⟨text, known⟩ :=
      ((mem_documentsBelow_iff collected).mp hp).exists_matchText proper normal h
    rw [accepts_isExcludedFrom known]
    exact Bool.false_ne_true
  have selected : t.selection root [] documents = ⟨documents, []⟩ := by
    simp [selection, kept]
  exact (discover_eq_ok_iff h).mpr
    ⟨documents, collected, rfl, exists_mapM_matchText proper normal h collected, selected.symm⟩

/-- A path that is asked about when documents are looked for: the root, or one below it with the
name of a document that is not that of a directory. -/
def LooksAt (t : FileTree) (root p : Path) : Prop :=
  p = root ∨ ∃ l names e, t.locate .target root = .ok (.taken l .directory) ∧
    t.Reached l names e ∧ e.isDirectory = false ∧ p = root.below names ∧ p.isDocumentName = true

/-- The names of a directory that is scanned when documents are looked for: the one that the root
leads to, or one below it. -/
def Scans (t : FileTree) (root : Path) (names : List String) : Prop :=
  (names = [] ∧ ∃ l e, t.locate .target root = .ok (.taken l e) ∧ e.isDirectory = true) ∨
    ∃ l e, t.locate .target root = .ok (.taken l .directory) ∧ t.Reached l names e ∧
      e.isDirectory = true

/-- A closed root cannot be scanned. -/
theorem scanProblem?_of_closed (h : t.locate .target root = .ok (.taken l .closed)) :
    t.scanProblem? root [] = some .denied := by
  have same : root.below [] = root := by simp [Path.below]
  have located := h
  rw [locate] at h
  split at h
  · cases h
  split at h
  · cases h
  · next short => rw [scanProblem?, Path.scanText_nil, if_neg short, same, located]

/-- Where there is no directory, there are no documents. -/
theorem exists_locate_of_discover {excludes : List Value} {found : Discovery}
    (h : t.discover root excludes = .ok found) :
    found.files = [] ∨ ∃ l, t.locate .target root = .ok (.taken l .directory) := by
  rw [discover] at h
  split at h
  · split at h
    · cases h
    · cases h
      exact .inl rfl
  · cases h
    exact .inl rfl
  · next l located => exact .inr ⟨l, located⟩
  · cases h
  · cases h

/-- **Why documents are not found**: the root leads to something else than a directory, a directory
cannot be scanned, a path leaves open what it leads to, or the first pattern that cannot be used. -/
theorem discover_eq_error (proper : t.Proper) (normal : root.IsNormal) {excludes : List Value}
    {fault : DiscoveryFault} (h : t.discover root excludes = .error fault) :
    (∃ l e, t.locate .target root = .ok (.taken l e) ∧ e.isDirectory = false ∧
      fault = .notDirectory root) ∨
    (∃ names problem, t.Scans root names ∧ t.scanProblem? root names = some problem ∧
      fault = .notScanned root (root.scanText names) problem) ∨
    (∃ p f, t.LooksAt root p ∧ t.locate .target p = .error f ∧ f.problem.leavesOpen = true ∧
      fault = .unusable f) ∨
    excludes.findSome? Value.patternFault? = some fault := by
  by_cases directory : ∃ l, t.locate .target root = .ok (.taken l .directory)
  · obtain ⟨l, hl⟩ := directory
    rcases (discover_eq_error_iff hl).mp h with failed |
      ⟨documents, collected, unusable | ⟨-, f, failed, rfl⟩⟩
    · rcases documentsBelow_eq_error failed with
        ⟨names, e, problem, reached, directory, scanned, rfl⟩ |
        ⟨names, e, f, reached, other, named, located, leavesOpen, rfl⟩
      · exact .inr (.inl ⟨names, problem, .inr ⟨l, e, hl, reached, directory⟩, scanned, rfl⟩)
      · exact .inr (.inr (.inl ⟨_, f, .inr ⟨l, names, e, hl, reached, other, rfl, named⟩, located,
          leavesOpen, rfl⟩))
    · exact .inr (.inr (.inr unusable))
    · obtain ⟨texts, known⟩ := exists_mapM_matchText proper normal hl collected
      cases failed.symm.trans known
  · rw [discover] at h
    split at h
    · next f located =>
        split at h
        · next leavesOpen =>
            cases h
            exact .inr (.inr (.inl ⟨root, f, .inl rfl, located, leavesOpen, rfl⟩))
        · cases h
    · cases h
    · next l located => exact absurd ⟨l, located⟩ directory
    · next l located =>
        cases h
        exact .inr (.inl ⟨[], .denied, .inl ⟨rfl, l, .closed, located, rfl⟩,
          scanProblem?_of_closed located, rfl⟩)
    · next l e open' closed located =>
        cases h
        refine .inl ⟨l, e, located, ?_, rfl⟩
        cases e <;> simp_all [FileEntry.isDirectory]

/-- **Documents that are found** are at files. -/
theorem exists_of_mem_files {excludes : List Value} {found : Discovery}
    (h : t.discover root excludes = .ok found) {p : Path} (hp : p ∈ found.files) :
    ∃ m e, t.locate .target p = .ok (.taken m e) ∧ e.isFile = true := by
  rcases exists_locate_of_discover h with none | ⟨l, hl⟩
  · rw [none] at hp
    cases hp
  · obtain ⟨documents, collected, -, -, rfl⟩ := (discover_eq_ok_iff hl).mp h
    exact ((mem_documentsBelow_iff collected).mp (List.mem_filter.mp hp).1).file

/-- The tree with one document at the root. -/
def oneDocument : FileTree := ⟨[], [(["a.bpmn"], .file ByteArray.empty)]⟩

/-- There is such a tree. -/
theorem oneDocument_proper : oneDocument.Proper :=
  proper_of_root (by simp [IsEntryName, IsNormalName]) (by simp)

/-- The one document is found at the root, by its name. -/
theorem oneDocument_found :
    oneDocument.locate .target ⟨.root, []⟩ = .ok (.taken [] .directory) ∧
      oneDocument.documentsBelow ⟨.root, []⟩ [] = .ok [⟨.root, ["a.bpmn"]⟩] ∧
      oneDocument.matchText ⟨.root, []⟩ ⟨.root, ["a.bpmn"]⟩ = .ok "a.bpmn".toList := by
  have entry : oneDocument.entryAt? ["a.bpmn"] = some (.file ByteArray.empty) := rfl
  have directory : oneDocument.locate .target ⟨.root, []⟩ = .ok (.taken [] .directory) := by
    simp [locate, Path.hasZero, Path.toString, Path.Anchor.text, walk, entryAt?, origin,
      Path.isAbsolute]
    decide
  have file : oneDocument.locate .target ⟨.root, ["a.bpmn"]⟩ =
      .ok (.taken ["a.bpmn"] (.file ByteArray.empty)) := by
    have root : oneDocument.entryAt? [] = some .directory := rfl
    simp [locate, Path.hasZero, Path.toString, Path.Anchor.text, walk, root, entry, origin,
      Path.isAbsolute, maxNameBytes]
    decide
  have named : (⟨.root, ["a.bpmn"]⟩ : Path).isDocumentName = true := by decide +kernel
  have document : oneDocument.isDocument ⟨.root, ["a.bpmn"]⟩ = .ok true := by
    simp [isDocument, named, isFile, lookup, file, FileEntry.isFile, bind, Except.bind, pure,
      Except.pure]
  have below : oneDocument.below [] = [(["a.bpmn"], .file ByteArray.empty)] := by decide +kernel
  have base : oneDocument.realPath ⟨.root, []⟩ = .ok ⟨.root, []⟩ := by
    simp [realPath, Path.hasZero, origin, Path.isAbsolute, resolveNames, directory]
  have real : oneDocument.realPath ⟨.root, ["a.bpmn"]⟩ = .ok ⟨.root, ["a.bpmn"]⟩ := by
    simp [realPath, Path.hasZero, origin, Path.isAbsolute, resolveNames, entry, file]
  refine ⟨directory, ?_, ?_⟩
  · simp [documentsBelow, below, visit, FileEntry.isDirectory, Path.below, List.filterM,
      List.filterAuxM, document, mapError_ok, bind, Except.bind, pure, Except.pure,
      List.eraseDups_cons]
  · simp [matchText, base, real, bind, Except.bind, pure, Except.pure]
    rfl

/-- All that is looked at is there. -/
theorem oneDocument_of_looksAt {p : Path} (h : oneDocument.LooksAt ⟨.root, []⟩ p) :
    ∃ l e, oneDocument.locate .target p = .ok (.taken l e) := by
  obtain ⟨located, collected, -⟩ := oneDocument_found
  rcases h with rfl | ⟨l, names, e, hl, reached, -, rfl, -⟩
  · exact ⟨_, _, located⟩
  · cases located.symm.trans hl
    have below : oneDocument.below [] = [(["a.bpmn"], .file ByteArray.empty)] := by decide +kernel
    have found := mem_below_iff_reached.mpr reached
    rw [below, List.mem_singleton] at found
    cases found
    obtain ⟨m, e, there, -⟩ :=
      ((mem_documentsBelow_iff collected).mp (List.mem_singleton_self _)).file
    exact ⟨m, e, there⟩

end FileTree

end ProcessStubs
