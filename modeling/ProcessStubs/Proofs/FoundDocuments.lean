import ProcessStubs.Proofs.MemoryImage
import ProcessStubs.Proofs.Rediscovery

/-!
# The documents that are found

Looking for documents below a directory finds exactly the documents that directories lead to and no
pattern excludes, each of them once and in the order of their paths. Which of them there are depends
on what is where, and so not on the order in which directories list what they hold.

Two things can stop it: a directory that cannot be scanned, and a path with the name of a document
of which it cannot be found out what it leads to. It may be denied to ask, or the path may be too
long or lead along a link through a name that is. Then nothing is found at all.

## Main definitions

* `FileTree.Relisted`: the same tree, listed in another order.

## Main results

* `FileTree.Relisted.documentsBelow_eq`: the order of listing does not matter.
* `FileTree.discover_exact`: exactly these documents are found, and in which order.
-/

namespace ProcessStubs

open Exclusion

namespace FileTree

variable {t t' : FileTree} {root p : Path} {l : Location} {names : List String} {e : FileEntry}

/-- **What is found where nothing stops it**: what patterns leave of the documents. -/
theorem exists_discover (proper : t.Proper) (normal : root.IsNormal) (opens : t.Opens root l)
    (walkable : t.Walkable root l) {excludes : List Value} {patterns : List Pattern}
    (valid : patternsOf excludes = .ok patterns) :
    ∃ documents, t.documentsBelow root l = .ok documents ∧
      t.discover root excludes = .ok (t.selection root patterns documents) := by
  obtain ⟨usable, rfl⟩ := patternsOf_eq_ok_iff.mp valid
  obtain ⟨documents, collected⟩ := exists_documentsBelow_iff.mpr walkable
  have known := exists_mapM_matchText proper normal opens collected
  exact ⟨documents, collected,
    (discover_eq_ok_iff opens).mpr ⟨documents, collected, usable, known, rfl⟩⟩

/-! ### Other orders of listing -/

section

variable {aim : Aim} {links : Nat} {here : Location} {result : Except FileProblem Place}

/-- A walk depends on what is where. -/
theorem Walks.congr (same : ∀ l, t'.entryAt? l = t.entryAt? l)
    (h : t.Walks aim links here names result) : t'.Walks aim links here names result := by
  induction h with
  | done found => exact .done ((same _).trans found)
  | gone none => exact .gone ((same _).trans none)
  | slash file => exact .slash file
  | lost on none => exact .lost on ((same _).trans none)
  | blocked on found other => exact .blocked on ((same _).trans found) other
  | denied closed named => exact .denied ((same _).trans closed) named
  | stay on closed _ ih => exact .stay on ((same _).trans closed) ih
  | skip on directory skipped _ ih => exact .skip on ((same _).trans directory) skipped ih
  | up directory _ ih => exact .up ((same _).trans directory) ih
  | long directory entry long => exact .long ((same _).trans directory) entry long
  | free directory named none => exact .free ((same _).trans directory) named ((same _).trans none)
  | noFile directory named none file =>
      exact .noFile ((same _).trans directory) named ((same _).trans none) file
  | missing directory named none more on =>
      exact .missing ((same _).trans directory) named ((same _).trans none) more on
  | itself directory named found itself =>
      exact .itself ((same _).trans directory) named ((same _).trans found) itself
  | loop directory named found on =>
      exact .loop ((same _).trans directory) named ((same _).trans found) on
  | follow directory named found on _ ih =>
      exact .follow ((same _).trans directory) named ((same _).trans found) on ih
  | enter directory named found ends _ ih =>
      exact .enter ((same _).trans directory) named ((same _).trans found) ends ih

/-- What directories lead to depends on what is where. -/
theorem Reached.congr (same : ∀ l, t'.entryAt? l = t.entryAt? l) (h : t.Reached l names e) :
    t'.Reached l names e := by
  induction h with
  | child directory found => exact .child ((same _).trans directory) ((same _).trans found)
  | deeper _ found ih => exact .deeper ih ((same _).trans found)

end

/-- **The same tree in another order** of its entries, each of which is listed once. -/
structure Relisted (t t' : FileTree) : Prop where
  working : t'.workingDirectory = t.workingDirectory
  entries : t'.entries.Perm t.entries
  distinct : (Assoc.keys t.entries).Nodup

namespace Relisted

variable (h : Relisted t t')

include h

/-- The same is everywhere. -/
theorem entryAt?_eq (l : Location) : t'.entryAt? l = t.entryAt? l := by
  have distinct' : (Assoc.keys t'.entries).Nodup :=
    (h.entries.map Prod.fst).nodup_iff.mpr h.distinct
  rw [entryAt?, entryAt?]
  split
  · rfl
  · refine Option.ext fun e => ?_
    rw [Assoc.get?_eq_some_iff distinct', Assoc.get?_eq_some_iff h.distinct, h.entries.mem_iff]

/-- Paths lead where they did. -/
theorem locate_eq (aim : Aim) (p : Path) : t'.locate aim p = t.locate aim p := by
  have walk (here : Location) :
      t'.walk aim maxLinks here p.parts = t.walk aim maxLinks here p.parts :=
    ((walks_walk t aim maxLinks here p.parts).congr h.entryAt?_eq).walk_eq
  rw [locate, locate, origin, origin, h.working, walk]

/-- There is such a tree if there was one. -/
theorem proper (proper : t.Proper) : t'.Proper where
  named x hx := proper.named x (h.entries.mem_iff.mp hx)
  targets x hx := proper.targets x (h.entries.mem_iff.mp hx)
  working_named := h.working ▸ proper.working_named
  working l hl := (h.entryAt?_eq l).trans (proper.working l (h.working ▸ hl))

/-- Directories lead to the same. -/
theorem reached_iff : t'.Reached l names e ↔ t.Reached l names e :=
  ⟨fun reached => reached.congr fun l => (h.entryAt?_eq l).symm,
    fun reached => reached.congr h.entryAt?_eq⟩

/-- **The order of listing does not matter**: the documents are the same, in the same order. -/
theorem documentsBelow_eq {documents : List Path}
    (collected : t.documentsBelow root l = .ok documents) :
    t'.documentsBelow root l = .ok documents := by
  obtain ⟨walkable, -, -⟩ := documentsBelow_eq_ok_iff.mp collected
  refine documentsBelow_congr collected (fun names e reached => ?_) fun p => ⟨?_, ?_⟩
  · rw [scanProblem?, h.locate_eq .target]
    exact walkable names e (h.reached_iff.mp reached)
  · rintro ⟨⟨names, e, reached, path⟩, named, file⟩
    rw [← h.locate_eq .target] at file
    exact ⟨⟨names, e, h.reached_iff.mpr reached, path⟩, named, file⟩
  · rintro ⟨⟨names, e, reached, path⟩, named, file⟩
    rw [h.locate_eq .target] at file
    exact ⟨⟨names, e, h.reached_iff.mp reached, path⟩, named, file⟩

/-- What is found is the same. -/
theorem discover_eq (proper : t.Proper) (normal : root.IsNormal) (opens : t.Opens root l)
    {excludes : List Value} {found : Discovery}
    (discovered : t.discover root excludes = .ok found) :
    t'.discover root excludes = .ok found := by
  obtain ⟨documents, collected, -⟩ := (discover_eq_ok_iff opens).mp discovered
  have opens' : t'.Opens root l := (h.locate_eq .target root).trans opens
  refine discover_congr opens opens' collected (h.documentsBelow_eq collected) ?_ discovered
  intro p hp
  obtain ⟨⟨names, e, reached, rfl⟩, -, m, e', located, -⟩ :=
    (mem_documentsBelow_iff collected).mp hp
  have normal' := reached.isNormal proper normal
  have located' := (h.locate_eq .target (root.below names)).trans located
  rw [matchText, matchText, realPath_of_locate proper normal opens,
    realPath_of_locate (h.proper proper) normal opens', realPath_of_locate proper normal' located,
    realPath_of_locate (h.proper proper) normal' located']

end Relisted

/-! ### Exactly the documents -/

/-- A directory that cannot be walked to cannot be scanned. -/
theorem exists_scanProblem?_of_error {f : FileFault}
    (located : t.locate .target (root.below names) = .error f) :
    ∃ problem, t.scanProblem? root names = some problem := by
  rw [scanProblem?, located]
  split
  · exact ⟨_, rfl⟩
  · exact ⟨_, rfl⟩

/-- **Exactly the documents are found**, if nothing below the directory stops it: those that
directories lead to and that are not excluded, each once and in strict order of their components,
whatever the order in which entries are listed. If it is left open what a path leads to that has the
name of a document, nothing is found, even if all it belongs to is a link that leads nowhere.
Nothing is found either if a directory cannot be scanned. -/
theorem discover_exact (proper : t.Proper) (normal : root.IsNormal) (opens : t.Opens root l)
    {excludes : List Value} {patterns : List Pattern} (valid : patternsOf excludes = .ok patterns) :
    (t.Walkable root l → ∃ found, t.discover root excludes = .ok found ∧
      found.files.Pairwise Path.Before ∧ found.files.Nodup ∧
      (∀ p, p ∈ found.files ↔
        t.DocumentBelow root l p ∧ t.isExcludedFrom root patterns p = .ok false) ∧
      ∀ t', Relisted t t' → t'.discover root excludes = .ok found) ∧
    (∀ names e f, t.Reached l names e → (root.below names).isDocumentName = true →
      t.locate .target (root.below names) = .error f → f.problem.leavesOpen = true →
      ∀ found, t.discover root excludes ≠ .ok found) ∧
    ∀ names e problem, t.Reached l names e → e.isDirectory = true →
      t.scanProblem? root names = some problem →
      ∀ found, t.discover root excludes ≠ .ok found := by
  refine ⟨fun walkable => ?_, fun names e f reached named located leavesOpen => ?_,
    fun names e problem reached directory scanned =>
      not_discover_of_scanProblem? opens reached directory scanned excludes⟩
  · obtain ⟨documents, collected, discovered⟩ := exists_discover proper normal opens walkable valid
    have ordered : (t.selection root patterns documents).files.Pairwise Path.Before :=
      (documentsBelow_eq_ok_iff.mp collected).2.1.filter _
    refine ⟨_, discovered, ordered, ordered.imp Path.Before.ne, fun p => ⟨fun hp => ?_, ?_⟩,
      fun t' relisted => relisted.discover_eq proper normal opens discovered⟩
    · have document := (mem_documentsBelow_iff collected).mp (List.mem_filter.mp hp).1
      obtain ⟨text, matched⟩ := document.exists_matchText proper normal opens
      have kept := ((mem_files_selection matched).mp hp).2
      exact ⟨document, isExcludedFrom_eq_ok_iff.mpr ⟨text, matched, kept⟩⟩
    · rintro ⟨document, notExcluded⟩
      obtain ⟨text, matched, kept⟩ := isExcludedFrom_eq_ok_iff.mp notExcluded
      exact (mem_files_selection matched).mpr
        ⟨(mem_documentsBelow_iff collected).mpr document, kept⟩
  · cases directory : e.isDirectory with
    | true =>
        obtain ⟨problem, scanned⟩ := exists_scanProblem?_of_error located
        exact not_discover_of_scanProblem? opens reached directory scanned excludes
    | false =>
        exact not_discover_of_leavesOpen opens reached directory named located leavesOpen excludes

/-! ### Two trees with links -/

/-- A tree with one document in a directory, and a link beside the directory that leads to it. -/
def linkedTree : FileTree := ⟨[], [
  (["sub"], .directory),
  (["sub", "b.bpmn"], .file ByteArray.empty),
  (["a.bpmn"], .link ⟨⟨.relative, ["sub", "b.bpmn"]⟩, .plain⟩)]⟩

/-- There is such a tree. -/
theorem linkedTree_proper : linkedTree.Proper :=
  proper_of_root (by simp [IsEntryName, IsNormalName]) (by simp [Path.IsNormal, IsNormalName])

/-- Its root is a directory, and both paths to the document lead there. -/
theorem linkedTree_locate :
    linkedTree.Opens ⟨.root, []⟩ [] ∧
      linkedTree.locate .target ⟨.root, ["sub"]⟩ = .ok (.taken ["sub"] .directory) ∧
      linkedTree.locate .target ⟨.root, ["sub", "b.bpmn"]⟩ =
        .ok (.taken ["sub", "b.bpmn"] (.file ByteArray.empty)) ∧
      linkedTree.locate .target ⟨.root, ["a.bpmn"]⟩ =
        .ok (.taken ["sub", "b.bpmn"] (.file ByteArray.empty)) := by
  have sub : IsShortName "sub" := by decide
  have document : IsShortName "b.bpmn" := by decide
  have link : IsShortName "a.bpmn" := by decide
  have walked (links : Nat) : linkedTree.Walks .target links [] ["sub", "b.bpmn"]
      (.ok (.taken ["sub", "b.bpmn"] (.file ByteArray.empty))) :=
    .enter rfl sub rfl nofun (.enter rfl document rfl nofun (.done rfl))
  refine ⟨locate_of_walks ?_ (.done rfl), locate_of_walks ?_ (.enter rfl sub rfl nofun (.done rfl)),
    locate_of_walks ?_ (walked _), locate_of_walks ?_ (.follow rfl link rfl (by simp) (walked _))⟩
  all_goals decide

/-- Nothing in it stops looking for documents. -/
theorem linkedTree_walkable : linkedTree.Walkable ⟨.root, []⟩ [] := by
  intro names e reached
  obtain ⟨-, sub, document, link⟩ := linkedTree_locate
  have listed := (eq_or_mem_of_entryAt? reached.entryAt?_eq).resolve_left
    (by cases reached <;> simp)
  simp only [linkedTree, List.nil_append, List.mem_cons, List.not_mem_nil, or_false,
    Prod.mk.injEq] at listed
  rcases listed with ⟨rfl, rfl⟩ | ⟨rfl, rfl⟩ | ⟨rfl, rfl⟩
  · refine ⟨fun _ => Opens.scanProblem?_eq_none sub (by decide +kernel), nofun⟩
  · exact ⟨nofun, fun _ _ f failed => by cases document.symm.trans failed⟩
  · exact ⟨nofun, fun _ _ f failed => by cases link.symm.trans failed⟩

/-- The link is a document of its own. -/
theorem linkedTree_document :
    linkedTree.Reached [] ["a.bpmn"] (.link ⟨⟨.relative, ["sub", "b.bpmn"]⟩, .plain⟩) ∧
      linkedTree.DocumentBelow ⟨.root, []⟩ [] ⟨.root, ["a.bpmn"]⟩ := by
  have reached : linkedTree.Reached [] ["a.bpmn"]
      (.link ⟨⟨.relative, ["sub", "b.bpmn"]⟩, .plain⟩) := .child rfl rfl
  have named : (⟨.root, ["a.bpmn"]⟩ : Path).isDocumentName = true := by decide +kernel
  exact ⟨reached, ⟨_, _, reached, rfl⟩, named, _, _, linkedTree_locate.2.2.2, rfl⟩

/-- Without patterns, the link is found as well, whatever the order in which entries are listed. -/
theorem discover_exact_linked :
    ∃ found, linkedTree.discover ⟨.root, []⟩ [] = .ok found ∧
      ⟨.root, ["a.bpmn"]⟩ ∈ found.files ∧
      FileTree.discover ⟨[], linkedTree.entries.reverse⟩ ⟨.root, []⟩ [] = .ok found := by
  have normal : Path.IsNormal ⟨.root, []⟩ := Path.isNormal_root
  have valid : patternsOf [] = .ok [] := rfl
  obtain ⟨opens, -⟩ := linkedTree_locate
  obtain ⟨found, discovered, -, -, exact, relisted⟩ :=
    (discover_exact linkedTree_proper normal opens valid).1 linkedTree_walkable
  obtain ⟨-, document⟩ := linkedTree_document
  obtain ⟨text, matched⟩ := document.exists_matchText linkedTree_proper normal opens
  have kept : linkedTree.isExcludedFrom ⟨.root, []⟩ [] ⟨.root, ["a.bpmn"]⟩ = .ok false :=
    isExcludedFrom_eq_ok_iff.mpr ⟨text, matched, rfl⟩
  have reversed : Relisted linkedTree ⟨[], linkedTree.entries.reverse⟩ :=
    ⟨rfl, List.reverse_perm _, by decide⟩
  exact ⟨found, discovered, (exact _).mpr ⟨document, kept⟩, relisted _ reversed⟩

/-- A name that is too long, by one character. -/
def longTarget : String := String.ofList (List.replicate (maxNameBytes + 1) 'x')

/-- A tree with a document, and with a link beside it that leads to this name. -/
def longLinkTree : FileTree := ⟨[], [
  (["a.bpmn"], .file ByteArray.empty), (["b.bpmn"], .link ⟨⟨.relative, [longTarget]⟩, .plain⟩)]⟩

/-- **A link that leads nowhere** keeps the document beside it from being found. -/
theorem not_discover_exact_longLink :
    longLinkTree.Proper ∧ longLinkTree.Opens ⟨.root, []⟩ [] ∧ patternsOf [] = .ok [] ∧
      longLinkTree.DocumentBelow ⟨.root, []⟩ [] ⟨.root, ["a.bpmn"]⟩ ∧
      longLinkTree.isExcludedFrom ⟨.root, []⟩ [] ⟨.root, ["a.bpmn"]⟩ = .ok false ∧
      (∀ place, longLinkTree.locate .target ⟨.root, ["b.bpmn"]⟩ ≠ .ok place) ∧
      ∀ found, longLinkTree.discover ⟨.root, []⟩ [] ≠ .ok found := by
  have name : IsEntryName longTarget :=
    ⟨⟨by decide +kernel, by decide +kernel⟩, by decide +kernel⟩
  have long : maxNameBytes < longTarget.utf8ByteSize := by decide +kernel
  have proper : longLinkTree.Proper :=
    proper_of_root (by simp [IsEntryName, IsNormalName]) (by simpa [Path.IsNormal] using name.1)
  have first : IsShortName "a.bpmn" := by decide
  have second : IsShortName "b.bpmn" := by decide
  have possible : (⟨.root, ["b.bpmn"]⟩ : Path).IsPossible := by decide
  have opens : longLinkTree.Opens ⟨.root, []⟩ [] :=
    locate_of_walks (by decide) (.done rfl)
  have document : longLinkTree.DocumentBelow ⟨.root, []⟩ [] ⟨.root, ["a.bpmn"]⟩ :=
    ⟨⟨_, _, .child rfl rfl, rfl⟩, by decide +kernel, _, _,
      locate_root_file first (by decide) rfl, rfl⟩
  have walked : longLinkTree.Walks .target maxLinks [] ["b.bpmn"] (.error .nameTooLong) :=
    .follow rfl second rfl (by simp) (.long rfl name long)
  have located : longLinkTree.locate .target ⟨.root, ["b.bpmn"]⟩ =
      .error ⟨.nameTooLong, ⟨.root, ["b.bpmn"]⟩⟩ := by
    rw [locate_of_walk possible]
    exact congrArg (Except.mapError _) walked.walk_eq
  obtain ⟨text, matched⟩ := document.exists_matchText proper Path.isNormal_root opens
  refine ⟨proper, opens, rfl, document, isExcludedFrom_eq_ok_iff.mpr ⟨text, matched, rfl⟩, ?_,
    not_discover_of_leavesOpen opens (.child rfl rfl) rfl (by decide +kernel) located rfl []⟩
  intro place there
  cases located.symm.trans there

end FileTree

end ProcessStubs
