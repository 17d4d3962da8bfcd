import ProcessStubs.Proofs.Discovered
import ProcessStubs.Proofs.Faults

/-!
# How generation ends

Generation ends with a report, or with a fault of the source directory: it is no directory, or one
that is to be scanned cannot be. There are three more ways in which it can end, and each of them has
a cause of its own: an exclude pattern that cannot be read, a path that leaves it open what it leads
to, since it is too long or permission is denied on its way, or an output directory that nothing can
be at. Whatever is wrong with a document or a stub stays in the report.

This is so for all trees of files, which leave out some of what a system has. A file or a directory
is denied as a whole or not at all, so that a directory which lists names and lets nobody in is none
of these trees. Names are texts: bytes that are no text are no name, though a system may have a
document of such a name, and a module that is to tell it as its source could not be encoded. Faults
of a device, and what another program does meanwhile, are left out as well, and so are the limits of
memory and of nesting.

## Main definitions

* `Ending`: the ways in which generation ends, with their causes.

## Main results

* `ending_generate`: there is no other way.
* `Ending.of_usable`: without the three causes there is a report, or the source directory is at
  fault.
* `generate_of_patternFault?`: a pattern that cannot be read ends generation.
* `generate_ends`: these three for settings that were frozen.
-/

namespace ProcessStubs

open Exclusion

/-- **How generation ends**, given the files.

* `report`: with a report.
* `notDirectory`: the source directory is something else.
* `notScanned`: it, or a directory below it, cannot be scanned.
* `badPattern`: one of the exclude patterns cannot be read.
* `leftOpen`: a path that is looked at leaves it open what it leads to.
* `impossible`: modules are to be written below a directory that nothing can be at. -/
inductive Ending (s : Settings) (t : FileTree) : Except GenerationFault Run → Prop
  | report (r : Run) : Ending s t (.ok r)
  | notDirectory {l : Location} {e : FileEntry} :
      t.locate .target s.sourceDirectory = .ok (.taken l e) → e.isDirectory = false →
      Ending s t (.error (.discovery (.notDirectory s.sourceDirectory)))
  | notScanned {names : List String} {problem : FileProblem} :
      t.Scans s.sourceDirectory names → t.scanProblem? s.sourceDirectory names = some problem →
      Ending s t (.error (.discovery
        (.notScanned s.sourceDirectory (s.sourceDirectory.scanText names) problem)))
  | badPattern {line : String} {f : PatternFault} :
      .text line ∈ s.excludePatterns → Pattern.ofLine line = .error f →
      Ending s t (.error (.discovery (.badPattern f)))
  | leftOpen {p : Path} {f : FileFault} :
      t.LooksAt s.sourceDirectory p → t.locate .target p = .error f →
      f.problem.leavesOpen = true → Ending s t (.error (.discovery (.unusable f)))
  | impossible {f : FileFault} :
      s.dryRun = false → s.outputDirectory.hasZero = true → f.isMistake = true →
      Ending s t (.error (.mistake f))

/-- A fault of the source directory itself, and no other one. -/
def GenerationFault.IsScanFailure (fault : GenerationFault) : Prop :=
  ∃ cause message, fault = .discovery cause ∧ cause.scanFailure? = some message

variable {s : Settings} {store : Store}

/-- There is a report if documents can be looked for and there is a run over those found. -/
theorem generate_eq_ok_iff {r : Run} :
    (generate s store).1 = .ok r ↔
      ∃ found, store.files.discover s.sourceDirectory s.excludePatterns = .ok found ∧
        Run.ofDocuments s s.destination store found.files = .ok r := by
  rw [generate]
  cases discovered : store.files.discover s.sourceDirectory s.excludePatterns with
  | error fault => simp
  | ok found =>
      rcases done : Run.ofDocuments s s.destination store found.files with fault | b <;>
        simp [done]

/-- The destination of settings is impossible only if modules are to be written below a directory
that nothing can be at. -/
theorem Settings.of_not_possible (h : ¬ s.destination.Possible) :
    s.dryRun = false ∧ s.outputDirectory.hasZero = true := by
  rw [destination] at h
  cases dry : s.dryRun with
  | true =>
      rw [dry] at h
      exact absurd trivial h
  | false =>
      rw [dry] at h
      exact ⟨rfl, by simpa [Destination.Possible] using h⟩

/-- **Generation ends in one of these ways** if the patterns are texts. -/
theorem ending_generate {draft : Draft} {tree : FileTree} (frozen : draft.freeze tree = .ok s)
    (texts : ∀ v ∈ s.excludePatterns, ∃ line, v = .text line) (proper : store.files.Proper)
    (normal : s.sourceDirectory.IsNormal) : Ending s store.files (generate s store).1 := by
  rw [generate]
  cases discovered : store.files.discover s.sourceDirectory s.excludePatterns with
  | error fault =>
      rcases FileTree.discover_eq_error proper normal discovered with
        ⟨l, e, located, other, rfl⟩ | ⟨names, problem, scans, scanned, rfl⟩ |
        ⟨p, f, looked, located, leavesOpen, rfl⟩ | unusable
      · exact .notDirectory located other
      · exact .notScanned scans scanned
      · exact .leftOpen looked located leavesOpen
      · obtain ⟨v, hv, unread⟩ := List.exists_of_findSome?_eq_some unusable
        obtain ⟨line, rfl⟩ := texts v hv
        obtain ⟨f, hf, rfl⟩ := Value.patternFault?_text unread
        exact .badPattern hv hf
  | ok found =>
      cases run : Run.ofDocuments s s.destination store found.files with
      | ok r =>
          simp only [run]
          exact .report r
      | error fault =>
          simp only [run]
          obtain ⟨f, rfl, mistake, ⟨p, hp, zero⟩ | impossible⟩ :=
            Run.ofDocuments_eq_error frozen run
          · obtain ⟨m, e, located, -⟩ := FileTree.exists_of_mem_files discovered hp
            rw [FileTree.locate, if_pos zero] at located
            cases located
          · obtain ⟨dry, zero⟩ := Settings.of_not_possible impossible
            exact .impossible dry zero mistake

/-- **A pattern that cannot be read ends generation**, if the documents of the source directory can
be collected at all. -/
theorem generate_of_patternFault? {l : Location} {documents : List Path} {fault : DiscoveryFault}
    (located : store.files.locate .target s.sourceDirectory = .ok (.taken l .directory))
    (collected : store.files.documentsBelow s.sourceDirectory l = .ok documents)
    (unusable : s.excludePatterns.findSome? Value.patternFault? = some fault) :
    (generate s store).1 = .error (.discovery fault) := by
  have discovered := (FileTree.discover_eq_error_iff located).mpr
    (.inr ⟨documents, collected, .inl unusable⟩)
  rw [generate, discovered]

/-- Settings that are of use for files: all patterns can be read, modules can be where they are to
be written, and no path that is looked at leaves it open what it leads to. -/
structure Settings.Usable (s : Settings) (t : FileTree) : Prop where
  patterns : ∀ line, .text line ∈ s.excludePatterns → ∃ rule, Pattern.ofLine line = .ok rule
  output : s.dryRun = true ∨ s.outputDirectory.hasZero = false
  settled : ∀ p, t.LooksAt s.sourceDirectory p →
    ∀ f, t.locate .target p = .error f → f.problem.leavesOpen = false

/-- Generation with usable settings ends with a report, or the source directory is at fault. -/
theorem Ending.of_usable {outcome : Except GenerationFault Run} {t : FileTree}
    (h : Ending s t outcome) (usable : s.Usable t) :
    (∃ r, outcome = .ok r) ∨ ∃ fault, outcome = .error fault ∧ fault.IsScanFailure := by
  cases h with
  | report r => exact .inl ⟨r, rfl⟩
  | notDirectory => exact .inr ⟨_, rfl, _, _, rfl, rfl⟩
  | notScanned => exact .inr ⟨_, rfl, _, _, rfl, rfl⟩
  | badPattern given unread =>
      obtain ⟨rule, read⟩ := usable.patterns _ given
      cases unread.symm.trans read
  | leftOpen looked located leavesOpen =>
      cases leavesOpen.symm.trans (usable.settled _ looked _ located)
  | impossible dry zero =>
      rcases usable.output with preview | possible
      · cases dry.symm.trans preview
      · cases zero.symm.trans possible

/-- **How generation ends for settings that were frozen.** It ends in one of the six ways; with
usable settings there is a report, or the source directory is at fault; and where documents can be
collected, the first pattern that cannot be read ends it. -/
theorem generate_ends {draft : Draft} {tree : FileTree} (frozen : draft.freeze tree = .ok s)
    (texts : ∀ v ∈ s.excludePatterns, ∃ line, v = .text line) (store : Store)
    (proper : store.files.Proper) (normal : s.sourceDirectory.IsNormal) :
    Ending s store.files (generate s store).1 ∧
    (s.Usable store.files → (∃ r, (generate s store).1 = .ok r) ∨
      ∃ fault, (generate s store).1 = .error fault ∧ fault.IsScanFailure) ∧
    ∀ l documents fault,
      store.files.locate .target s.sourceDirectory = .ok (.taken l .directory) →
      store.files.documentsBelow s.sourceDirectory l = .ok documents →
      s.excludePatterns.findSome? Value.patternFault? = some fault →
      (generate s store).1 = .error (.discovery fault) := by
  have ending := ending_generate frozen texts proper normal
  exact ⟨ending, ending.of_usable, fun l documents fault => generate_of_patternFault?⟩

/-- Where documents are found, it is not the source directory that is at fault. -/
theorem not_isScanFailure_of_discover {draft : Draft} {tree : FileTree}
    (frozen : draft.freeze tree = .ok s) {found : Discovery} {fault : GenerationFault}
    (discovered : store.files.discover s.sourceDirectory s.excludePatterns = .ok found)
    (ended : (generate s store).1 = .error fault) : ¬ fault.IsScanFailure := by
  rintro ⟨cause, message, rfl, -⟩
  rw [generate, discovered] at ended
  cases run : Run.ofDocuments s s.destination store found.files with
  | error fault =>
      obtain ⟨f, rfl, -⟩ := Run.ofDocuments_eq_error frozen run
      simp only [run] at ended
      cases ended
  | ok r =>
      simp only [run] at ended
      cases ended

/-- The tree with one document at the root, and a closed directory beside it. -/
def FileTree.closedTree : FileTree :=
  ⟨[], [(["a.bpmn"], .file ByteArray.empty), (["b"], .closed)]⟩

/-- There is such a tree. -/
theorem FileTree.closedTree_proper : closedTree.Proper :=
  proper_of_root (by simp [IsEntryName, IsNormalName]) (by simp)

/-- Its root is a directory, and the document is there. The closed directory cannot be scanned. -/
theorem FileTree.closedTree_locate :
    closedTree.locate .target ⟨.root, []⟩ = .ok (.taken [] .directory) ∧
      closedTree.locate .target ⟨.root, ["a.bpmn"]⟩ =
        .ok (.taken ["a.bpmn"] (.file ByteArray.empty)) ∧
      closedTree.scanProblem? ⟨.root, []⟩ ["b"] = some .denied := by
  have document : IsShortName "a.bpmn" := by decide
  have folder : IsShortName "b" := by decide
  have closed : closedTree.locate .target ⟨.root, ["b"]⟩ = .ok (.taken ["b"] .closed) :=
    locate_root_taken folder (by decide) rfl nofun
  refine ⟨?_, locate_root_file document (by decide) rfl, ?_⟩
  · rw [locate_of_walk (by decide)]
    exact congrArg (Except.mapError _) (walk_nil rfl)
  · rw [scanProblem?, if_neg (by decide +kernel), Path.below, List.nil_append, closed]

/-- What is looked at in it is there. -/
theorem FileTree.closedTree_of_looksAt {p : Path} (looked : closedTree.LooksAt ⟨.root, []⟩ p) :
    ∃ l e, closedTree.locate .target p = .ok (.taken l e) := by
  obtain ⟨located, document, -⟩ := closedTree_locate
  rcases looked with rfl | ⟨l, names, e, directory, reached, other, rfl, -⟩
  · exact ⟨_, _, located⟩
  · cases located.symm.trans directory
    have listed := (eq_or_mem_of_entryAt? reached.entryAt?_eq).resolve_left
      (by simp [reached.ne_nil])
    rcases List.mem_pair.mp listed with there | there
    · cases there
      exact ⟨_, _, document⟩
    · cases there
      cases other

/-- Settings with a pattern for all documents are usable where all that is looked at is there. -/
theorem usable_excluding {t : FileTree} (working : t.workingDirectory = [])
    (there : ∀ p, t.LooksAt ⟨.root, []⟩ p → ∃ l e, t.locate .target p = .ok (.taken l e)) :
    ((Draft.excluding ⟨.root, []⟩ ["*.bpmn"]).settings t).Usable t where
  patterns line given := by
    have given : Value.text line ∈ [Value.text "*.bpmn"] := given
    cases List.mem_singleton.mp given
    exact ⟨some ⟨false, [.above, .name, .char '.', .char 'b', .char 'p', .char 'm', .char 'n',
      .atOrBelow]⟩, by decide +kernel⟩
  output := by
    refine .inr ?_
    change Path.hasZero (⟨.root, t.workingDirectory⟩ / Settings.defaultOutput) = false
    rw [working, Path.hasZero_eq_false_iff]
    decide +kernel
  settled p looked f failed := by
    obtain ⟨l, e, located⟩ := there p looked
    cases located.symm.trans failed

/-- **A document that can be excluded** keeps generation from nothing, and a closed directory beside
it ends generation with a fault of the source directory. -/
theorem generate_ends_excluded :
    let draft := Draft.excluding ⟨.root, []⟩ ["*.bpmn"]
    let s := draft.settings FileTree.oneDocument
    let s' := draft.settings FileTree.closedTree
    draft.freeze FileTree.oneDocument = .ok s ∧ draft.freeze FileTree.closedTree = .ok s' ∧
      (∀ v ∈ s.excludePatterns, ∃ line, v = .text line) ∧
      (∀ v ∈ s'.excludePatterns, ∃ line, v = .text line) ∧
      FileTree.oneDocument.Proper ∧ FileTree.closedTree.Proper ∧
      s.sourceDirectory.IsNormal ∧ s'.sourceDirectory.IsNormal ∧
      s.Usable FileTree.oneDocument ∧ s'.Usable FileTree.closedTree ∧
      (∃ r, (generate s ⟨[], FileTree.oneDocument⟩).1 = .ok r) ∧
      ∃ fault, (generate s' ⟨[], FileTree.closedTree⟩).1 = .error fault ∧ fault.IsScanFailure := by
  intro draft s s'
  obtain ⟨located, collected, matched⟩ := FileTree.oneDocument_found
  obtain ⟨located', -, scanned⟩ := FileTree.closedTree_locate
  have texts : ∀ v ∈ s.excludePatterns, ∃ line, v = .text line :=
    List.forall_mem_singleton.mpr ⟨_, rfl⟩
  have texts' : ∀ v ∈ s'.excludePatterns, ∃ line, v = .text line :=
    List.forall_mem_singleton.mpr ⟨_, rfl⟩
  have usable : s.Usable FileTree.oneDocument :=
    usable_excluding rfl fun p looked => FileTree.oneDocument_of_looksAt looked
  have usable' : s'.Usable FileTree.closedTree :=
    usable_excluding rfl fun p looked => FileTree.closedTree_of_looksAt looked
  refine ⟨Draft.freeze_excluding _ _ _, Draft.freeze_excluding _ _ _, texts, texts',
    FileTree.oneDocument_proper, FileTree.closedTree_proper, nofun, nofun, usable, usable', ?_, ?_⟩
  · have ends := (generate_ends (Draft.freeze_excluding _ _ _) texts ⟨[], FileTree.oneDocument⟩
      FileTree.oneDocument_proper nofun).2.1 usable
    refine ends.resolve_right fun ⟨fault, ended, failure⟩ => ?_
    have discovered := (FileTree.discover_eq_ok_iff located).mpr ⟨_, collected,
      (by decide +kernel : s.excludePatterns.findSome? Value.patternFault? = none),
      ⟨_, mapM_eq_ok_iff.mpr (.cons matched .nil)⟩, rfl⟩
    exact not_isScanFailure_of_discover (Draft.freeze_excluding _ _ _) discovered ended failure
  · have ends := (generate_ends (Draft.freeze_excluding _ _ _) texts' ⟨[], FileTree.closedTree⟩
      FileTree.closedTree_proper nofun).2.1 usable'
    refine ends.resolve_left fun ⟨r, ended⟩ => ?_
    obtain ⟨found, discovered, -⟩ := generate_eq_ok_iff.mp ended
    exact FileTree.not_discover_of_scanProblem? located' (.child rfl rfl) rfl scanned _ _ discovered

/-- A pattern of one backslash ends generation, though documents can be looked for: there is no
report, and the source directory is one. -/
theorem generate_of_backslash :
    let draft := Draft.excluding ⟨.root, []⟩ ["\\"]
    let s := draft.settings FileTree.oneDocument
    draft.freeze FileTree.oneDocument = .ok s ∧
      (generate s ⟨[], FileTree.oneDocument⟩).1 =
        .error (.discovery (.badPattern .meaningless)) ∧
      ¬ ((∃ r, (generate s ⟨[], FileTree.oneDocument⟩).1 = .ok r) ∨
        ∃ fault, (generate s ⟨[], FileTree.oneDocument⟩).1 = .error fault ∧
          fault.IsScanFailure) := by
  intro draft s
  obtain ⟨located, collected, -⟩ := FileTree.oneDocument_found
  have unread : s.excludePatterns.findSome? Value.patternFault? =
      some (.badPattern .meaningless) := by
    have line : Pattern.ofLine "\\" = .error .meaningless := by decide +kernel
    rw [show s.excludePatterns = [.text "\\"] from rfl]
    simp [Value.patternFault?, Value.isTrue, Value.rule, line, mapError_error]
  have ended : (generate s ⟨[], FileTree.oneDocument⟩).1 =
      .error (.discovery (.badPattern .meaningless)) :=
    generate_of_patternFault? located collected unread
  refine ⟨Draft.freeze_excluding _ _ _, ended, ?_⟩
  rw [ended]
  rintro (⟨r, h⟩ | ⟨fault, h, cause, message, rfl, told⟩)
  · cases h
  · cases h
    cases told

end ProcessStubs
