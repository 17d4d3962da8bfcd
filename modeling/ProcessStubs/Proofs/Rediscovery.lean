import ProcessStubs.Proofs.Discovered
import ProcessStubs.Proofs.Gains
import ProcessStubs.Proofs.KeyedList

/-!
# Looking for documents again

A tree that gains modules and directories gains no documents: the name of a module is no name of a
document, and a directory is no file. So looking for documents again finds the same ones, excludes
the same ones and reads them alike, provided that the new directories can be walked to at all.

## Main definitions

* `FileTree.HasRoom`: the new directories below a directory can be walked to.

## Main results

* `FileTree.Opens.locate_below`: where names below a directory lead.
* `FileTree.documentsBelow_congr`, `FileTree.discover_congr`: what collecting documents and looking
  for them depends on.
* `FileTree.Gains.documentsBelow_eq`: the documents below a directory are the same.
* `FileTree.Gains.discover_eq`: looking for documents comes to the same.
* `FileTree.Gains.ofFile_eq`: each of them reads the same.
-/

namespace ProcessStubs

open FileTree

/-- Asking all members gives the same if asking each of them does. -/
theorem mapM_congr {ε α β : Type} {f g : α → Except ε β} {l : List α}
    (h : ∀ a ∈ l, f a = g a) : l.mapM f = l.mapM g := by
  induction l with
  | nil => rfl
  | cons a rest ih =>
      obtain ⟨first, others⟩ := List.forall_mem_cons.mp h
      rw [List.mapM_cons, List.mapM_cons, first, ih others]

namespace Path

variable {p : Path}

/-! ### Names of modules -/

/-- A path with the name of a module is not named as a document. -/
theorem isDocumentName_of_module {name : String} (h : p.name = name ++ moduleSuffix) :
    p.isDocumentName = false := by
  have last (cs : List Char) {c : Char} (ends : cs ++ [c] <:+ (name ++ moduleSuffix).toList) :
      c = 'y' := by
    obtain ⟨rest, whole⟩ := ends
    have split : rest ++ cs ++ [c] = name.toList ++ ['.', 'p'] ++ ['y'] := by
      simpa [moduleSuffix] using whole
    exact List.singleton_inj.mp (List.append_inj' split rfl).2
  rw [isDocumentName, h, List.any_eq_false]
  intro suffix known
  rw [String.endsWith_eq_endsWith_toSlice, String.Slice.endsWith_string_iff, String.copy_toSlice]
  rcases List.mem_pair.mp known with rfl | rfl
  · exact fun ends => absurd (last ".bpm".toList ends) (by decide)
  · exact fun ends => absurd (last ".bpmn20.xm".toList ends) (by decide)

/-- The name of a path with names after its own is the last one of these. -/
theorem name_below {name : String} (p : Path) {names : List String} {l l' : Location}
    (nonempty : names ≠ []) (place : l ++ names = l' ++ [name]) : (p.below names).name = name := by
  obtain ⟨rest, last, rfl⟩ := List.eq_nil_or_concat names |>.resolve_left nonempty
  rw [List.concat_eq_append, ← List.append_assoc] at place
  obtain ⟨-, same⟩ := List.append_inj' place rfl
  simp [Path.name, below, List.singleton_inj.mp same]

end Path

namespace FileTree

variable {t t' : FileTree} {root p : Path} {l m : Location} {names : List String} {e : FileEntry}

/-! ### What is below a directory -/

/-- **What directories lead to** is all that is there. -/
theorem Grounded.reached_iff (grounded : t.Grounded) :
    t.Reached l names e ↔ names ≠ [] ∧ t.entryAt? (l ++ names) = some e := by
  refine ⟨fun reached => ⟨reached.ne_nil, reached.entryAt?_eq⟩, ?_⟩
  rintro ⟨nonempty, found⟩
  induction names using List.reverseRecOn generalizing e with
  | nil => exact absurd rfl nonempty
  | append_singleton names name ih =>
      have above := grounded.above (l ++ names) name e (by rwa [List.append_assoc])
      by_cases first : names = []
      · subst first
        exact .child (by rwa [List.append_nil] at above) found
      · exact .deeper (ih first above) found

/-- **Names below a directory** lead to what is there. -/
theorem Opens.locate_below (h : t.Opens root l) (grounded : t.Grounded) (linkFree : t.LinkFree)
    (possible : (root.below names).IsPossible) (found : t.entryAt? (l ++ names) = some e) :
    t.locate .target (root.below names) = .ok (.taken (l ++ names) e) := by
  induction names using List.reverseRecOn generalizing e with
  | nil =>
      rw [List.append_nil] at found ⊢
      cases h.directory.symm.trans found
      have here : root.below [] = root := by simp [Path.below]
      rw [here]
      exact h
  | append_singleton names name ih =>
      have last : root.below (names ++ [name]) = (root.below names).child name := by
        simp [Path.below, Path.child]
      rw [← List.append_assoc] at found ⊢
      rw [last] at possible ⊢
      have shorter : (root.below names).IsPossible := by
        simpa [Path.parent, Path.child] using possible.parent
      have above : t.Opens (root.below names) (l ++ names) :=
        ih shorter (grounded.above _ _ _ found)
      exact above.locate_taken .target ⟨grounded.named _ _ _ found, possible⟩ found
        (linkFree _ e found)

/-- **A file below a directory** can be read. -/
theorem Opens.read_below (h : t.Opens root l) (grounded : t.Grounded) (linkFree : t.LinkFree)
    (possible : (root.below names).IsPossible) {content : ByteArray}
    (found : t.entryAt? (l ++ names) = some (.file content)) :
    t.read (root.below names) = .ok content := by
  rw [FileTree.read, h.locate_below grounded linkFree possible found]
  rfl

/-- Where a path cannot be walked, it does not depend on the files where it leads. -/
theorem locate_of_not_isPossible (impossible : ¬ p.IsPossible) (t t' : FileTree) (aim : Aim) :
    t'.locate aim p = t.locate aim p := by
  rw [locate, locate]
  split
  · rfl
  · next nonzero =>
      rw [if_pos, if_pos]
      all_goals
        by_contra short
        exact impossible ⟨by simpa using nonzero, Nat.not_lt.mp short⟩

/-- **Documents are the same** in two trees if the same paths below a location lead to them. -/
theorem documentsBelow_congr {documents : List Path}
    (h : t.documentsBelow root l = .ok documents) (walkable : t'.Walkable root l)
    (same : ∀ p, t.DocumentBelow root l p ↔ t'.DocumentBelow root l p) :
    t'.documentsBelow root l = .ok documents := by
  obtain ⟨-, ordered, members⟩ := documentsBelow_eq_ok_iff.mp h
  exact documentsBelow_eq_ok_iff.mpr ⟨walkable, ordered, fun p => (members p).trans (same p)⟩

/-- A directory can be scanned if its path can be walked and written. -/
theorem Opens.scanProblem?_eq_none (h : t.Opens (root.below names) m)
    (short : (root.scanText names).utf8ByteSize ≤ maxPathBytes) :
    t.scanProblem? root names = none := by
  rw [scanProblem?, if_neg (Nat.not_lt.mpr short), show t.locate .target _ = _ from h]

/-- A directory that could be scanned can be scanned later. -/
theorem Grows.scanProblem?_eq_none (growth : Grows t t') (h : t.scanProblem? root names = none) :
    t'.scanProblem? root names = none := by
  obtain ⟨m, located⟩ := exists_locate_of_scanProblem? h
  have opens : t.Opens (root.below names) m := located
  refine (opens.grows growth).scanProblem?_eq_none ?_
  by_contra long
  rw [scanProblem?, if_pos (Nat.not_le.mp long)] at h
  cases h

/-- **Looking for documents comes to the same** in two trees if both have the same documents, and
each is matched as the same. -/
theorem discover_congr {documents : List Path} (opens : t.Opens root l) (opens' : t'.Opens root l)
    (collected : t.documentsBelow root l = .ok documents)
    (collected' : t'.documentsBelow root l = .ok documents)
    (matched : ∀ p ∈ documents, t'.matchText root p = t.matchText root p) {excludes : List Value}
    {found : Discovery} (h : t.discover root excludes = .ok found) :
    t'.discover root excludes = .ok found := by
  obtain ⟨_, hdocuments, usable, ⟨texts, htexts⟩, rfl⟩ := (discover_eq_ok_iff opens).mp h
  cases collected.symm.trans hdocuments
  refine (discover_eq_ok_iff opens').mpr ⟨documents, collected', usable, ⟨texts, ?_⟩, ?_⟩
  · rw [mapM_congr matched]
    exact htexts
  · have decided (patterns : List Exclusion.Pattern) : ∀ p ∈ documents,
        accepts (t.isExcludedFrom root patterns) p =
          accepts (t'.isExcludedFrom root patterns) p := by
      intro p hp
      have same : t.isExcludedFrom root patterns p = t'.isExcludedFrom root patterns p := by
        rw [isExcludedFrom, isExcludedFrom, matched p hp]
      simp only [accepts, same]
    rw [selection, selection, List.filter_congr (decided _)]

/-- **There is room for new directories** below a directory: their paths can be walked and, as a
scan writes them, are not too long. -/
def HasRoom (root : Path) (l : Location) (t t' : FileTree) : Prop :=
  ∀ names, t.entryAt? (l ++ names) = none → t'.entryAt? (l ++ names) = some .directory →
    (root.below names).IsPossible ∧ (root.scanText names).utf8ByteSize ≤ maxPathBytes

namespace Gains

/-! ### Documents are the same -/

/-- What is named as a document stays as it is. -/
theorem entryAt?_document (gains : Gains t t') (named : (root.below names).isDocumentName = true)
    (nonempty : names ≠ []) (found : t.entryAt? (l ++ names) = some e) :
    t'.entryAt? (l ++ names) = some e := by
  rcases gains.entry_cases (l ++ names) with same | ⟨free, -⟩ | ⟨above, name, _, place, -⟩
  · exact same.trans found
  · cases free.symm.trans found
  · rw [Path.isDocumentName_of_module (root.name_below nonempty place)] at named
    cases named

variable (gains : Gains t t') (grounded : t.Grounded) (linkFree : t.LinkFree)
  (opens : t.Opens root l)

include gains grounded linkFree opens

/-- What is named as a document leads where it did. -/
theorem locate_document (named : (root.below names).isDocumentName = true) (nonempty : names ≠ [])
    (found : t.entryAt? (l ++ names) = some e) :
    t'.locate .target (root.below names) = t.locate .target (root.below names) := by
  by_cases possible : (root.below names).IsPossible
  · rw [opens.locate_below grounded linkFree possible found,
      (opens.grows gains.grows).locate_below (gains.grounded grounded) (gains.linkFree linkFree)
        possible (gains.entryAt?_document named nonempty found)]
  · exact locate_of_not_isPossible possible t t' .target

/-- **Nothing keeps documents from being collected** later if nothing did before. -/
theorem walkable (room : HasRoom root l t t') (before : t.Walkable root l) :
    t'.Walkable root l := by
  intro names e reached
  obtain ⟨nonempty, found⟩ := (gains.grounded grounded).reached_iff.mp reached
  rcases gains.entry_cases (l ++ names) with same | ⟨free, directory⟩ |
    ⟨above, name, bytes, place, file⟩
  · have there := same.symm.trans found
    obtain ⟨scanned, walked⟩ := before names e (grounded.reached_iff.mpr ⟨nonempty, there⟩)
    refine ⟨fun directory => gains.grows.scanProblem?_eq_none (scanned directory), ?_⟩
    intro other named f located
    rw [gains.locate_document grounded linkFree opens named nonempty there] at located
    exact walked other named f located
  · cases found.symm.trans directory
    obtain ⟨possible, short⟩ := room names free directory
    have new : t'.Opens (root.below names) (l ++ names) :=
      (opens.grows gains.grows).locate_below (gains.grounded grounded) (gains.linkFree linkFree)
        possible directory
    exact ⟨fun _ => new.scanProblem?_eq_none short, nofun⟩
  · cases found.symm.trans file
    refine ⟨nofun, fun _ named => ?_⟩
    rw [Path.isDocumentName_of_module (root.name_below nonempty place)] at named
    cases named

/-- **The documents below a directory** are those that were there. -/
theorem documentBelow_iff (room : HasRoom root l t t') :
    t'.DocumentBelow root l p ↔ t.DocumentBelow root l p := by
  constructor
  · rintro ⟨⟨names, e, reached, rfl⟩, named, m, e', located, isFile⟩
    obtain ⟨nonempty, found⟩ := (gains.grounded grounded).reached_iff.mp reached
    rcases gains.entry_cases (l ++ names) with same | ⟨free, directory⟩ |
      ⟨above, name, _, place, -⟩
    · have there := same.symm.trans found
      rw [gains.locate_document grounded linkFree opens named nonempty there] at located
      exact ⟨⟨names, e, grounded.reached_iff.mpr ⟨nonempty, there⟩, rfl⟩, named, m, e', located,
        isFile⟩
    · have new := (opens.grows gains.grows).locate_below (gains.grounded grounded)
        (gains.linkFree linkFree) (room names free directory).1 directory
      cases located.symm.trans new
      cases isFile
    · rw [Path.isDocumentName_of_module (root.name_below nonempty place)] at named
      cases named
  · rintro ⟨⟨names, e, reached, rfl⟩, named, m, e', located, isFile⟩
    obtain ⟨nonempty, found⟩ := grounded.reached_iff.mp reached
    have found' := gains.entryAt?_document named nonempty found
    rw [← gains.locate_document grounded linkFree opens named nonempty found] at located
    exact ⟨⟨names, e, (gains.grounded grounded).reached_iff.mpr ⟨nonempty, found'⟩, rfl⟩, named, m,
      e', located, isFile⟩

/-- **The documents below a directory** are the same later. -/
theorem documentsBelow_eq (room : HasRoom root l t t') {documents : List Path}
    (h : t.documentsBelow root l = .ok documents) : t'.documentsBelow root l = .ok documents :=
  documentsBelow_congr h
    (gains.walkable grounded linkFree opens room (documentsBelow_eq_ok_iff.mp h).1)
    fun _ => (gains.documentBelow_iff grounded linkFree opens room).symm

/-- A document leads where it did, and to what it was. -/
theorem locate_of_mem_documentsBelow {documents : List Path}
    (h : t.documentsBelow root l = .ok documents) (hp : p ∈ documents) :
    ∃ m e, e.isFile = true ∧ t.locate .target p = .ok (.taken m e) ∧
      t'.locate .target p = .ok (.taken m e) := by
  obtain ⟨⟨names, e, reached, rfl⟩, named, m, e', located, isFile⟩ :=
    (mem_documentsBelow_iff h).mp hp
  obtain ⟨nonempty, found⟩ := grounded.reached_iff.mp reached
  exact ⟨m, e', isFile, located,
    (gains.locate_document grounded linkFree opens named nonempty found).trans located⟩

/-- What patterns are matched against is the same later. -/
theorem matchText_eq (proper : t.Proper) (normal : root.IsNormal) {documents : List Path}
    (h : t.documentsBelow root l = .ok documents) (hp : p ∈ documents) :
    t'.matchText root p = t.matchText root p := by
  obtain ⟨m, e, -, located, located'⟩ :=
    gains.locate_of_mem_documentsBelow grounded linkFree opens h hp
  have normal' : p.IsNormal := by
    obtain ⟨⟨names, e, reached, rfl⟩, -, -⟩ := (mem_documentsBelow_iff h).mp hp
    exact reached.isNormal proper normal
  have proper' := gains.proper proper
  rw [matchText, matchText, realPath_of_locate proper normal opens,
    realPath_of_locate proper' normal (opens.grows gains.grows),
    realPath_of_locate proper normal' located, realPath_of_locate proper' normal' located']

/-- **Looking for documents again** comes to the same. -/
theorem discover_eq (proper : t.Proper) (normal : root.IsNormal) (room : HasRoom root l t t')
    {excludes : List Value} {found : Discovery} (h : t.discover root excludes = .ok found) :
    t'.discover root excludes = .ok found := by
  obtain ⟨documents, hdocuments, -⟩ := (discover_eq_ok_iff opens).mp h
  refine discover_congr opens (opens.grows gains.grows) hdocuments
    (gains.documentsBelow_eq grounded linkFree opens room hdocuments) ?_ h
  exact fun p hp => gains.matchText_eq grounded linkFree opens proper normal hdocuments hp

/-- **Documents that were found** read the same later. -/
theorem ofFile_eq {excludes : List Value} {found : Discovery}
    (h : t.discover root excludes = .ok found) (hp : p ∈ found.files) :
    ProcessDocument.ofFile t' p = ProcessDocument.ofFile t p := by
  obtain ⟨documents, hdocuments, -, -, rfl⟩ := (discover_eq_ok_iff opens).mp h
  obtain ⟨m, e, -, located, located'⟩ := gains.locate_of_mem_documentsBelow grounded linkFree opens
    hdocuments (List.mem_filter.mp hp).1
  rw [ProcessDocument.ofFile, ProcessDocument.ofFile, FileTree.read, FileTree.read, located,
    located']

end Gains

/-- **The only document** below a directory is found there, if nothing is excluded and nothing else
is below. -/
theorem discover_only (proper : t.Proper) (normal : root.IsNormal) (opens : t.Opens root l)
    {place : Location} {content : ByteArray} (reached : t.Reached l names (.file content))
    (located : t.locate .target (root.below names) = .ok (.taken place (.file content)))
    (named : (root.below names).isDocumentName = true)
    (others : ∀ names' e, t.Reached l names' e → names' = names ∨
      (e.isDirectory = true → t.scanProblem? root names' = none) ∧
        (root.below names').isDocumentName = false) :
    t.discover root [] = .ok ⟨[root.below names], []⟩ := by
  have walkable : t.Walkable root l := by
    intro names' e found
    rcases others names' e found with rfl | ⟨scanned, unnamed⟩
    · cases reached.entryAt?_eq.symm.trans found.entryAt?_eq
      exact ⟨nofun, fun _ _ f failed => by cases located.symm.trans failed⟩
    · exact ⟨scanned, fun _ named' => by cases unnamed.symm.trans named'⟩
  have member (p : Path) : p ∈ [root.below names] ↔ t.DocumentBelow root l p := by
    rw [List.mem_singleton]
    constructor
    · rintro rfl
      exact ⟨⟨names, _, reached, rfl⟩, named, place, _, located, rfl⟩
    · rintro ⟨⟨names', e, found, rfl⟩, named', -⟩
      rcases others names' e found with rfl | ⟨-, unnamed⟩
      · rfl
      · cases unnamed.symm.trans named'
  have only : t.documentsBelow root l = .ok [root.below names] :=
    documentsBelow_eq_ok_iff.mpr ⟨walkable, List.pairwise_singleton _ _, member⟩
  exact discover_of_collected proper normal opens only

end FileTree

end ProcessStubs
