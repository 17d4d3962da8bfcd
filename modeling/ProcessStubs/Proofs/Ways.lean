import ProcessStubs.Proofs.Lockstep
import ProcessStubs.Proofs.Refill

/-!
# Ways to modules, made once more

All modules of a package are reached along one way: the root and the directories of the package.
Where the way can be made, making it once more changes nothing, and what becomes of a module is a
matter of what is at its place. Where it cannot be made, it cannot be made later either. The only
thing that may change is the fault: with some of the directories above the root created, the root is
another step nearer, and the path that stands in the way is told from there.

## Main definitions

* `FileAction.makeWay`: making the way to the modules of a package.
* `FileTree.HalfMakes`: making a root fails after directories above it were created.

## Main results

* `FileTree.exists_folder_of_makeWay`, `FileTree.exists_makeWay_error`: what making the way leaves,
  and once more.
* `FileTree.storeText_alike`: where two trees have the same at a place or both take a text, the
  same becomes of a text that is to be stored there.
* `Destination.write_of_makeWay`, `Destination.write_of_makeWay_error`: writing a stub by its way.
* `Destination.attempt_of_makeWay`: writing a stub in two trees that have the way.
-/

namespace ProcessStubs

open FileTree FileAction

variable {t t' t₁ : FileTree} {root p : Path} {l : Location} {name : String}
  {names : List String} {packageMarkers : Bool} {f : FileFault} {u : Stub}

/-- Makes the way to the modules of a package: the root and the directories of the package, which
are made importable if `packageMarkers` holds. -/
def FileAction.makeWay (root : Path) (packageMarkers : Bool) (names : List String) :
    FileAction Unit := do
  ensureDirectories root
  let _ ← names.foldlM (enterDirectory packageMarkers) root

/-- The way to a module is that of its package. -/
theorem Stub.Placeable.ensurePackage_eq_makeWay (h : u.Placeable) :
    ensurePackage root packageMarkers (u.relativePath moduleSuffix) =
      makeWay root packageMarkers u.packageNames :=
  ensurePackage_eq h.package h.type root packageMarkers

namespace FileTree

/-- **Making a root fails half way**: directories above it were created before. -/
def HalfMakes (t : FileTree) (root : Path) : Prop :=
  ∃ f t', (ensureDirectories root).run.run t = (.error f, t') ∧ t' ≠ t

/-- **A root that is refused and refused again**: making it fails with a fault, and making it again
with another one. -/
def RefusedAgain (t : FileTree) (root : Path) (f f' : FileFault) : Prop :=
  ∃ t', (ensureDirectories root).run.run t = (.error f, t') ∧
    (ensureDirectories root).run.run t' = (.error f', t')

/-- A root that is refused and not made half way is refused again for the same reason. -/
theorem RefusedAgain.eq_of_not_halfMakes {f' : FileFault} (h : t.RefusedAgain root f f')
    (whole : ¬ t.HalfMakes root) : f' = f := by
  obtain ⟨t', failed, again⟩ := h
  have same : t' = t := by
    by_contra other
    exact whole ⟨f, t', failed, other⟩
  rw [same] at again
  cases failed.symm.trans again
  rfl

/-- A root that was made leads to a directory, closed or not. -/
theorem exists_folder_of_founded (linkFree : t.LinkFree)
    (founded : (ensureDirectories root).run.run t = (.ok (), t₁)) :
    ∃ l, t₁.Folder root l ∧ t₁.LinkFreeBelow l := by
  have made := founded_ensureDirectories root t
  rw [founded] at made
  obtain ⟨l, folder⟩ := made.folder rfl
  have before : t.LinkFreeBelow l := fun q e found => linkFree _ e found
  exact ⟨l, folder, before.along made.along⟩

variable (usable : ∀ name ∈ names, Text.isUsableName name = true) (linkFree : t.LinkFree)

include usable linkFree

/-- **Where the way can be made**, it leads to a directory, closed or not, and is not made again. -/
theorem exists_folder_of_makeWay
    (made : (makeWay root packageMarkers names).run.run t = (.ok (), t₁)) :
    ∃ l, t₁.Folder (root.below names) (l ++ names) ∧
      ∀ t', Grows t₁ t' → (makeWay root packageMarkers names).run.run t' = (.ok (), t') := by
  obtain ⟨_, t₂, founded, entered⟩ := exists_of_run_bind_ok made
  obtain ⟨l, folder, free⟩ := exists_folder_of_founded linkFree founded
  obtain ⟨x, t₃, entered, ended⟩ := exists_of_run_bind_ok entered
  cases ended
  obtain ⟨rfl, there⟩ := folder.folder_of_enterAll usable free entered
  have settles := folder.enterAll_settles usable free packageMarkers
  have builds := settles.builds
  have again := settles.again
  rw [entered] at builds again
  refine ⟨l, there, fun t' growth => ?_⟩
  have root_there := folder.grows (builds.grows.trans growth)
  rw [makeWay, run_bind_of_ok (ensureDirectories_of_folder root_there)]
  exact run_bind_of_ok (again t' growth)

/-- **Where the way cannot be made**, nothing is left to be made of it. Its fault is the same then,
unless it is the root that is refused again. -/
theorem exists_makeWay_error
    (failed : (makeWay root packageMarkers names).run.run t = (.error f, t₁)) :
    ∃ f', (makeWay root packageMarkers names).run.run t₁ = (.error f', t₁) ∧
      (f' = f ∨ t.RefusedAgain root f f') := by
  rcases founded : (ensureDirectories root).run.run t with ⟨refused | _, t'⟩
  · cases failed.symm.trans (run_bind_of_error founded)
    have refusal := founded_ensureDirectories root t
    rw [founded] at refusal
    obtain ⟨f', again⟩ := refusal.again f rfl
    exact ⟨f', run_bind_of_error again, .inr ⟨t₁, founded, again⟩⟩
  · obtain ⟨l, folder, free⟩ := exists_folder_of_founded linkFree founded
    have settles := folder.enterAll_settles usable free packageMarkers
    rw [makeWay, run_bind_of_ok founded] at failed
    rcases entered : (names.foldlM (enterDirectory packageMarkers) root).run.run t' with
      ⟨refused | x, t''⟩
    · cases failed.symm.trans (run_bind_of_error entered)
      have builds := settles.builds
      have again := settles.again t₁
      rw [entered] at builds again
      refine ⟨f, ?_, .inl rfl⟩
      rw [makeWay, run_bind_of_ok (ensureDirectories_of_folder (folder.grows builds.grows))]
      exact run_bind_of_error (again (.refl t₁))
    · cases failed.symm.trans (run_bind_of_ok entered)

end FileTree

/-! ### Storing a text in two trees -/

namespace FileTree.Opens

variable {text : String}

/-- A text is stored at a name that fits and takes a text. -/
theorem exists_storeText (h : t.Opens p l) (fits : p.Fits name)
    (takes : TakesText (t.entryAt? (l ++ [name]))) (text : String) :
    ∃ status t', (storeText (p.child name) text).run.run t = (.ok status, t') := by
  rcases found : t.entryAt? (l ++ [name]) with _ | e
  · exact ⟨_, _, storeText_of_other (h.text?_free fits found) (Option.some_ne_none text).symm
      (h.writeFile_free fits found text.toUTF8)⟩
  · obtain ⟨old, rfl, current, read⟩ := takes e found
    have asked := h.text?_file fits found
    rw [read] at asked
    by_cases same : current = text
    · subst same
      exact ⟨_, _, storeText_of_same asked⟩
    · exact ⟨_, _, storeText_of_other asked (fun heq => same (Option.some.inj heq))
        (h.writeFile_file fits found text.toUTF8)⟩

/-- **A text to be stored in two trees** that have the same at the place, or both take a text there:
it is stored in both or in neither, and then for the same reason. -/
theorem storeText_alike (h : t.Opens p l) (h' : t'.Opens p l) (linkFree : t.LinkFree)
    (entry : IsEntryName name) (nonzero : (p.child name).hasZero = false)
    (alike : t'.entryAt? (l ++ [name]) = t.entryAt? (l ++ [name]) ∨
      TakesText (t.entryAt? (l ++ [name])) ∧ TakesText (t'.entryAt? (l ++ [name])))
    (text : String) :
    (∃ status status' left left', (storeText (p.child name) text).run.run t = (.ok status, left) ∧
      (storeText (p.child name) text).run.run t' = (.ok status', left')) ∨
    ∃ problem, (storeText (p.child name) text).run.run t = (.error problem, t) ∧
      (storeText (p.child name) text).run.run t' = (.error problem, t') := by
  by_cases fits : p.Fits name
  · have directory {e : FileEntry} (found : t.entryAt? (l ++ [name]) = some e)
        (found' : t'.entryAt? (l ++ [name]) = some e) (folder : e.isDirectory = true) :
        ∃ problem, (storeText (p.child name) text).run.run t = (.error problem, t) ∧
          (storeText (p.child name) text).run.run t' = (.error problem, t') :=
      ⟨_, storeText_of_other (h.text?_directory fits found folder)
        (Option.some_ne_none text).symm (h.writeFile_directory fits found folder text.toUTF8),
        storeText_of_other (h'.text?_directory fits found' folder)
        (Option.some_ne_none text).symm (h'.writeFile_directory fits found' folder text.toUTF8)⟩
    by_cases takes : TakesText (t.entryAt? (l ++ [name]))
    · have takes' : TakesText (t'.entryAt? (l ++ [name])) :=
        alike.elim (fun same => same ▸ takes) And.right
      obtain ⟨status, left, stored⟩ := h.exists_storeText fits takes text
      obtain ⟨status', left', stored'⟩ := h'.exists_storeText fits takes' text
      exact .inl ⟨status, status', left, left', stored, stored'⟩
    · have same := alike.resolve_right fun both => takes both.1
      rcases found : t.entryAt? (l ++ [name]) with _ | (bytes | _ | _ | _ | target)
      · rw [found] at takes
        exact absurd (fun x hx => by cases hx) takes
      · rcases read : textOfBytes bytes with fault | current
        · have asked := h.text?_file fits found
          have asked' := h'.text?_file fits (same.trans found)
          rw [read] at asked asked'
          exact .inr ⟨_, storeText_of_unread asked text, storeText_of_unread asked' text⟩
        · rw [found] at takes
          exact absurd (takesText_of_holdsText ⟨current, read⟩) takes
      · exact .inr ⟨_, storeText_of_unread (h.text?_sealed fits found) text,
          storeText_of_unread (h'.text?_sealed fits (same.trans found)) text⟩
      · exact .inr (directory found (same.trans found) rfl)
      · exact .inr (directory found (same.trans found) rfl)
      · exact absurd rfl (linkFree _ _ found target)
  · exact .inr ⟨_, storeText_of_unread (h.text?_long entry nonzero fits) text,
      storeText_of_unread (h'.text?_long entry nonzero fits) text⟩

end FileTree.Opens

/-- **A text to be stored in two trees** in which a path leads to a directory, closed in both or in
neither. -/
theorem FileTree.storeText_alike (both : t.Opens p l ∧ t'.Opens p l ∨ t.Shuts p l ∧ t'.Shuts p l)
    (linkFree : t.LinkFree) (entry : IsEntryName name) (nonzero : (p.child name).hasZero = false)
    (alike : t'.entryAt? (l ++ [name]) = t.entryAt? (l ++ [name]) ∨
      TakesText (t.entryAt? (l ++ [name])) ∧ TakesText (t'.entryAt? (l ++ [name])))
    (text : String) :
    (∃ status status' left left', (storeText (p.child name) text).run.run t = (.ok status, left) ∧
      (storeText (p.child name) text).run.run t' = (.ok status', left')) ∨
    ∃ problem, (storeText (p.child name) text).run.run t = (.error problem, t) ∧
      (storeText (p.child name) text).run.run t' = (.error problem, t') := by
  rcases both with ⟨opens, opens'⟩ | ⟨shuts, shuts'⟩
  · exact opens.storeText_alike opens' linkFree entry nonzero alike text
  · exact .inr ⟨_, shuts.storeText_child entry.1.1 nonzero text,
      shuts'.storeText_child entry.1.1 nonzero text⟩

/-! ### Writing by a way -/

namespace Destination

variable {store store' : Store}

/-- A stub is not written where its way cannot be made. -/
theorem write_of_makeWay_error (h : u.Placeable) (usable : u.unusableName? = none)
    (failed : (makeWay root packageMarkers u.packageNames).run.run store.files = (.error f, t)) :
    (Destination.directory root packageMarkers).write store u =
      (.error (.file (.unusable f)), { store with files := t }) := by
  have stored : (storeModule root packageMarkers (u.relativePath moduleSuffix)
      u.moduleText).run.run store.files = (.error (.file (.unusable f)), t) := by
    rw [storeModule_eq, h.ensurePackage_eq_makeWay]
    exact run_bind_of_error (run_adapt failed)
  rw [write, writeText, usable]
  exact put_of_error store stored u

/-- **A stub is written where its way was made**, or the file at its place cannot be used. -/
theorem write_of_makeWay (h : u.Placeable) (usable : u.unusableName? = none)
    (made : (makeWay root packageMarkers u.packageNames).run.run store.files = (.ok (), t))
    (package : t.Folder (root.below u.packageNames) (l ++ u.packageNames)) (linkFree : t.LinkFree) :
    (∃ problem, (storeText ((root.below u.packageNames).child (u.typeName ++ moduleSuffix))
        u.moduleText).run.run t = (.error problem, t) ∧
      (Destination.directory root packageMarkers).write store u =
        (.error problem, { store with files := t })) ∨
    ∃ w t', (storeText ((root.below u.packageNames).child (u.typeName ++ moduleSuffix))
        u.moduleText).run.run t = (.ok w.status, t') ∧
      (Destination.directory root packageMarkers).write store u =
        (.ok w, { store with files := t' }) ∧
      w.stub = u ∧ w.path = root / u.relativePath moduleSuffix ∧
      TextStored (u.place l) u.moduleText t (.ok w.status) t' := by
  have nonzero := h.hasZero_module package.isPossible.nonzero
  rcases done : (storeText ((root.below u.packageNames).child (u.typeName ++ moduleSuffix))
    u.moduleText).run.run t with ⟨result, t'⟩
  have left := package.textStored (fun q e found => linkFree _ e found) h.entry nonzero done
  have stored : (storeModule root packageMarkers (u.relativePath moduleSuffix)
      u.moduleText).run.run store.files = (result, t') := by
    rw [storeModule_eq, h.ensurePackage_eq_makeWay, run_bind_of_ok (run_adapt made), h.path root]
    exact done
  rw [write, writeText, usable]
  cases result with
  | error problem =>
      cases left
      exact .inl ⟨problem, rfl, put_of_error store stored u⟩
  | ok status =>
      obtain ⟨w, stub, path, rfl, put⟩ := put_of_ok store stored u
      exact .inr ⟨w, t', rfl, put, stub, path, left⟩

/-- Writing a stub makes the root first, if that can be made. -/
theorem write_of_founded (h : u.Placeable) (usable : u.unusableName? = none)
    (founded : (ensureDirectories root).run.run store.files = (.ok (), t₁))
    (folder : t₁.Folder root l) :
    (Destination.directory root packageMarkers).write store u =
      (Destination.directory root packageMarkers).write { store with files := t₁ } u := by
  have way : (makeWay root packageMarkers u.packageNames).run.run store.files =
      (makeWay root packageMarkers u.packageNames).run.run t₁ := by
    rw [makeWay, run_bind_of_ok founded, run_bind_of_ok (ensureDirectories_of_folder folder)]
  have stored : (storeModule root packageMarkers (u.relativePath moduleSuffix)
      u.moduleText).run.run store.files = (storeModule root packageMarkers
        (u.relativePath moduleSuffix) u.moduleText).run.run t₁ := by
    rw [storeModule_eq, h.ensurePackage_eq_makeWay]
    rcases made : (makeWay root packageMarkers u.packageNames).run.run t₁ with ⟨f | _, t⟩
    · rw [run_bind_of_error (run_adapt (way.trans made)), run_bind_of_error (run_adapt made)]
    · rw [run_bind_of_ok (run_adapt (way.trans made)), run_bind_of_ok (run_adapt made)]
  rw [write, writeText, usable, write, writeText, usable]
  dsimp only [put]
  rw [show (storeModule root packageMarkers (u.relativePath moduleSuffix) u.moduleText).run
    store.files = _ from stored]
  rfl

/-- **A stub to be written in two trees that have the way**, and the same at each place, or both
take a text there: it is written in both or in neither, and then for the same reason. -/
theorem attempt_of_makeWay {near : WriteProblem → WriteProblem → Prop} (h : u.Placeable)
    (usable : u.unusableName? = none)
    (made : (makeWay root packageMarkers u.packageNames).run.run store.files = (.ok (), t))
    (made' : (makeWay root packageMarkers u.packageNames).run.run store'.files = (.ok (), t'))
    (both : t.Opens (root.below u.packageNames) (l ++ u.packageNames) ∧
        t'.Opens (root.below u.packageNames) (l ++ u.packageNames) ∨
      t.Shuts (root.below u.packageNames) (l ++ u.packageNames) ∧
        t'.Shuts (root.below u.packageNames) (l ++ u.packageNames))
    (linkFree : t.LinkFree) (linkFree' : t'.LinkFree)
    (alike : ∀ m, t'.entryAt? m = t.entryAt? m ∨
      TakesText (t.entryAt? m) ∧ TakesText (t'.entryAt? m)) :
    Attempt (Write.Matches id) near
      ((Destination.directory root packageMarkers).write store u).1
      ((Destination.directory root packageMarkers).write store' u).1 := by
  have package := both.imp And.left And.left
  have nonzero := h.hasZero_module (Folder.isPossible package).nonzero
  have outcome := write_of_makeWay h usable made package linkFree
  have outcome' := write_of_makeWay h usable made' (both.imp And.right And.right) linkFree'
  rcases storeText_alike both linkFree h.entry nonzero (alike _)
    u.moduleText with ⟨status, status', left, left', stored, stored'⟩ | ⟨problem, failed, failed'⟩
  · obtain ⟨w, _, -, written, stub, path, -⟩ := outcome.resolve_left fun ⟨problem, failed, _⟩ => by
      cases stored.symm.trans failed
    obtain ⟨w', _, -, written', stub', path', -⟩ :=
      outcome'.resolve_left fun ⟨problem, failed, _⟩ => by
        cases stored'.symm.trans failed
    rw [written, written']
    exact .ok ⟨stub'.trans stub.symm, path'.trans path.symm⟩
  · obtain ⟨_, same, refused⟩ := outcome.resolve_right fun ⟨w, _, stored, _⟩ => by
      cases stored.symm.trans failed
    obtain ⟨_, same', refused'⟩ := outcome'.resolve_right fun ⟨w, _, stored, _⟩ => by
      cases stored.symm.trans failed'
    cases failed.symm.trans same
    cases failed'.symm.trans same'
    rw [refused, refused']
    exact .error _

end Destination

end ProcessStubs
