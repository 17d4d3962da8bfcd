import ProcessStubs.Proofs.Faults
import ProcessStubs.Proofs.PathSize
import ProcessStubs.Proofs.Settling

/-!
# The directories on the way to a root

Seeing to it that there is a directory at a path, and those above it, only adds to a tree: what is
there stays as it is, and what is new is a directory that a beginning of the path leads to. Where it
succeeded the path leads to a directory, and where it failed it fails again and adds nothing more.

## Main definitions

* `FileTree.Extends`: trees of which the second one has all that the first one has, unchanged.
* `FileTree.NewOnPath`: a new directory that a beginning of a path leads to.
* `FileTree.OutputLinkFree`: no links below the place a root leads to.
* `FileTree.RootSettled`: a root for which nothing is left to be done.

## Main results

* `FileAction.founded_ensureDirectories`: what is new, where the path leads after a success, and
  that after a failure there is another one.
-/

namespace ProcessStubs

open FileTree FileAction

variable {t t' t'' : FileTree} {p : Path} {l : Location}

/-- The path above one that can be walked can be walked. -/
theorem Path.IsPossible.parent (h : p.IsPossible) : p.parent.IsPossible := by
  refine ⟨hasZero_parent h.nonzero, ?_⟩
  by_cases above : p.parent.parts = []
  · have short : p.parent.toString.utf8ByteSize ≤ 2 := by
      rw [Path.toString, above]
      cases p.parent.anchor <;> decide
    exact Nat.le_trans short (by decide)
  · have names : p.parts ≠ [] := by
      intro none
      exact above (by rw [Path.parent, none]; rfl)
    have shorter : extent p.parent.parts ≤ extent p.parts := by
      rw [← List.dropLast_append_getLast names, extent_append]
      simp [Path.parent]
    have here := Path.utf8ByteSize_toString names
    have there := Path.utf8ByteSize_toString above
    have anchor : p.parent.anchor = p.anchor := rfl
    rw [anchor] at there
    have room := h.short
    omega

namespace FileTree

/-- **One tree has all that another one has**, unchanged. -/
structure Extends (t t' : FileTree) : Prop where
  working : t'.workingDirectory = t.workingDirectory
  entry : ∀ m e, t.entryAt? m = some e → t'.entryAt? m = some e

namespace Extends

/-- A tree has what it has. -/
theorem refl (t : FileTree) : Extends t t := ⟨rfl, fun _ _ found => found⟩

/-- What is added to later is added to. -/
theorem trans (h : Extends t t') (h' : Extends t' t'') : Extends t t'' :=
  ⟨h'.working.trans h.working, fun m e found => h'.entry m e (h.entry m e found)⟩

/-- A tree that is added to grows. -/
theorem grows (h : Extends t t') : Grows t t' :=
  ⟨h.working, fun m e found => ⟨e, h.entry m e found, .refl e⟩⟩

/-- What there is not later, there was not before. -/
theorem free (h : Extends t t') {m : Location} (later : t'.entryAt? m = none) :
    t.entryAt? m = none := by
  cases found : t.entryAt? m with
  | none => rfl
  | some e => cases later.symm.trans (h.entry m e found)

end Extends

/-- What is put at a free place is added. -/
theorem extends_put (free : t.entryAt? l = none) (e : FileEntry) : Extends t (t.put l e) := by
  refine ⟨rfl, fun m e' found => ?_⟩
  rw [entryAt?_put_of_ne t ?_ e, found]
  rintro rfl
  cases free.symm.trans found

/-! ### Paths to directories -/

/-- Where a path with names leads to a place, the path above it leads to a directory. -/
theorem exists_folder_parent {aim : Aim} {place : Place} (names : p.parts ≠ [])
    (h : t.locate aim p = .ok place) : ∃ l', t.Folder p.parent l' := by
  have walked := walks_of_locate h
  rw [← List.dropLast_append_getLast names] at walked
  obtain ⟨l', e, before, folder⟩ := walked.dropLast
  have located : t.locate .target p.parent = .ok (.taken l' e) :=
    locate_of_walks (isPossible_of_locate h).parent before
  exact ⟨l', (folder_iff located).mpr folder⟩

/-- A path that leads to a directory is located there. -/
theorem Folder.exists_locate (h : t.Folder p l) :
    ∃ e, t.locate .target p = .ok (.taken l e) ∧ t.entryAt? l = some e := by
  rcases h with opens | shuts
  · exact ⟨_, opens, opens.directory⟩
  · exact ⟨_, shuts, (walks_of_locate shuts).entryAt?_of_taken⟩

/-- Where a path leads to a directory, so do its beginnings. -/
theorem Folder.exists_of_prefix (h : t.Folder p l) {names : List String}
    (beginning : names <+: p.parts) : ∃ m, t.Folder ⟨p.anchor, names⟩ m := by
  obtain ⟨rest, whole⟩ := beginning
  induction rest using List.reverseRecOn generalizing p l with
  | nil =>
      obtain rfl : names = p.parts := by simpa using whole
      exact ⟨l, h⟩
  | append_singleton rest last ih =>
      rw [← List.append_assoc] at whole
      have nonempty : p.parts ≠ [] := by simp [← whole]
      obtain ⟨e, located, -⟩ := h.exists_locate
      obtain ⟨l', above⟩ := exists_folder_parent nonempty located
      have shorter : names ++ rest = p.parent.parts := by simp [Path.parent, ← whole]
      obtain ⟨m, folder⟩ := ih above shorter
      exact ⟨m, folder⟩

/-- A path leads to one directory at most. -/
theorem Folder.unique (h : t.Folder p l) {l' : Location} (h' : t.Folder p l') : l = l' := by
  obtain ⟨e, located, -⟩ := h.exists_locate
  obtain ⟨e', located', -⟩ := h'.exists_locate
  cases located.symm.trans located'
  rfl

/-- A path that leads to a directory that can be entered leads to no closed one. -/
theorem Opens.not_shuts (h : t.Opens p l) {l' : Location} : ¬ t.Shuts p l' := fun shuts => by
  cases h.symm.trans shuts

/-- A directory that is created at a free place is what the path leads to. -/
theorem opens_put_of_free (h : t.locate .itself p = .ok (.free l)) :
    (t.put l .directory).Opens p l := by
  have walked := (walks_of_locate h).put_of_free (e := .directory) nofun
  exact locate_of_walks (isPossible_of_locate h) (walked.to_target (by simp))

/-- **A new directory on a path**: a beginning of the path leads to it. -/
def NewOnPath (p : Path) (t t' : FileTree) (m : Location) : Prop :=
  t.entryAt? m = none ∧ t'.entryAt? m = some .directory ∧
    ∃ names, names <+: p.parts ∧ t'.Opens ⟨p.anchor, names⟩ m

/-- Where a path leads to a directory, none of its beginnings leads to a new one. -/
theorem Folder.not_newOnPath (h : t.Folder p l) (growth : Grows t t') (m : Location) :
    ¬ NewOnPath p t t' m := by
  rintro ⟨free, -, names, beginning, opens⟩
  obtain ⟨m', there⟩ := h.exists_of_prefix beginning
  obtain rfl := (there.grows growth).unique (.inl opens)
  obtain ⟨e, -, found⟩ := there.exists_locate
  cases free.symm.trans found

/-- **A tree with new directories on a path** and no other change. -/
structure ExtendsAlong (p : Path) (t t' : FileTree) : Prop extends Extends t t' where
  new : ∀ m, t'.entryAt? m = t.entryAt? m ∨ NewOnPath p t t' m

namespace ExtendsAlong

/-- A tree can stay as it is. -/
theorem refl (p : Path) (t : FileTree) : ExtendsAlong p t t :=
  ⟨.refl t, fun _ => .inl rfl⟩

/-- A new directory at the place of a path. -/
theorem put (free : t.entryAt? l = none) (opens : (t.put l .directory).Opens p l) :
    ExtendsAlong p t (t.put l .directory) := by
  refine ⟨extends_put free _, fun m => ?_⟩
  by_cases same : m = l
  · subst same
    exact .inr ⟨free, opens.directory, p.parts, List.prefix_rfl, opens⟩
  · exact .inl (entryAt?_put_of_ne t same _)

/-- Directories on the path above are on the path. -/
theorem of_parent (h : ExtendsAlong p.parent t t') : ExtendsAlong p t t' := by
  refine ⟨h.toExtends, fun m => (h.new m).imp_right ?_⟩
  rintro ⟨free, directory, names, beginning, opens⟩
  exact ⟨free, directory, names, beginning.trans (List.dropLast_prefix _), opens⟩

/-- What is added on a path step by step is added on it. -/
theorem trans (h : ExtendsAlong p t t') (h' : ExtendsAlong p t' t'') : ExtendsAlong p t t'' := by
  refine ⟨h.toExtends.trans h'.toExtends, fun m => ?_⟩
  rcases h.new m with same | ⟨free, directory, names, beginning, opens⟩
  · rcases h'.new m with same' | ⟨free, new⟩
    · exact .inl (same'.trans same)
    · exact .inr ⟨same ▸ free, new⟩
  · exact .inr ⟨free, h'.entry m _ directory, names, beginning, opens.grows h'.grows⟩

end ExtendsAlong

end FileTree

/-! ### What seeing to directories does -/

namespace FileAction

/-- Where a path is found to lead to a directory, it does. -/
theorem exists_folder_of_isDirectory (h : t.isDirectory p = .ok true) : ∃ l, t.Folder p l := by
  rw [isDirectory, lookup] at h
  rcases located : t.locate .target p with f | (⟨l, e⟩ | l)
  · simp only [located] at h
    split at h <;> cases h
  · simp only [located] at h
    exact ⟨l, (folder_iff located).mpr (by simpa using h)⟩
  · simp [located] at h

/-- **Seeing to it that there is a directory** creates it at a free place, finds it, or fails. -/
theorem ensureDirectory_cases (t : FileTree) (p : Path) :
    (∃ l, t.locate .itself p = .ok (.free l) ∧
      (ensureDirectory p).run.run t = (.ok (), t.put l .directory)) ∨
    (∃ l, t.Folder p l ∧ (ensureDirectory p).run.run t = (.ok (), t)) ∨
    ∃ f, (ensureDirectory p).run.run t = (.error f, t) := by
  have fault (f) (failed : (createDirectory p).run.run t = (.error f, t)) :
      (∃ l, t.Folder p l ∧ (ensureDirectory p).run.run t = (.ok (), t)) ∨
        ∃ f, (ensureDirectory p).run.run t = (.error f, t) := by
    have asked := ensureDirectory_of_fault failed
    cases answer : t.isDirectory p with
    | error f' =>
        rw [answer] at asked
        exact .inr ⟨f', asked⟩
    | ok b =>
        rw [answer] at asked
        by_cases there : f.problem ≠ .noEntry ∧ b = true
        · obtain ⟨l, folder⟩ := exists_folder_of_isDirectory (there.2 ▸ answer)
          exact .inl ⟨l, folder, ensureDirectory_of_folder folder⟩
        · simp only [Except.bind, if_neg there] at asked
          exact .inr ⟨f, asked⟩
  rcases located : t.locate .itself p with f | (⟨l, e⟩ | l)
  · exact .inr (fault f (createDirectory_of_error located))
  · exact .inr (fault _ (createDirectory_of_taken located))
  · exact .inl ⟨l, rfl, ensureDirectory_of_free located⟩

/-- Where a directory cannot be seen to, nothing is done. -/
theorem eq_of_ensureDirectory_error {f : FileFault}
    (failed : (ensureDirectory p).run.run t = (.error f, t')) : t' = t := by
  rcases ensureDirectory_cases t p with ⟨_, _, made⟩ | ⟨_, _, made⟩ | ⟨_, made⟩
  · cases failed.symm.trans made
  · cases failed.symm.trans made
  · exact (Prod.mk.inj (failed.symm.trans made)).2

/-- **A directory that a walk does not reach** from one above it is not made. -/
theorem ensureDirectory_of_unreached {names : List String} {problem : FileProblem}
    (h : t.Opens p l) (nonempty : names ≠ []) (possible : (p.below names).IsPossible)
    (unreached : ∀ aim links, aim ≠ .file → t.Walks aim links l names (.error problem)) :
    (ensureDirectory (p.below names)).run.run t = (.error ⟨problem, p.below names⟩, t) := by
  have located (aim : Aim) (folder : aim ≠ .file) :
      t.locate aim (p.below names) = .error ⟨problem, p.below names⟩ := by
    obtain ⟨links, on⟩ := (walks_of_locate h).append nonempty
    have walked := on aim _ (unreached aim links folder)
    rw [locate_of_walk possible]
    exact congrArg (Except.mapError _) walked.walk_eq
  rw [ensureDirectory_of_fault (createDirectory_of_error (located .itself (by decide))),
    isDirectory, lookup, located .target (by decide)]
  cases leavesOpen : problem.leavesOpen with
  | true => simp [leavesOpen, Except.bind]
  | false => simp [leavesOpen, Except.bind]

/-- Where a directory is seen to, those above it are not. -/
theorem ensureDirectories_of_ok (done : (ensureDirectory p).run.run t = (.ok (), t')) :
    (ensureDirectories p).run.run t = (.ok (), t') := by
  rw [ensureDirectories]
  exact run_tryCatch_of_ok done

/-- Where more is missing than a directory above, it ends there. -/
theorem ensureDirectories_of_blocked {f : FileFault}
    (failed : (ensureDirectory p).run.run t = (.error f, t))
    (blocked : p.parts = [] ∨ f.problem ≠ .noEntry) :
    (ensureDirectories p).run.run t = (.error f, t) := by
  rw [ensureDirectories, run_tryCatch_of_error failed, dif_pos blocked]
  rfl

/-- Where a directory above is missing, those above are seen to first. -/
theorem ensureDirectories_of_missing {f : FileFault}
    (failed : (ensureDirectory p).run.run t = (.error f, t))
    (missing : ¬ (p.parts = [] ∨ f.problem ≠ .noEntry)) :
    (ensureDirectories p).run.run t =
      (do ensureDirectories p.parent; ensureDirectory p).run.run t := by
  rw [ensureDirectories, run_tryCatch_of_error failed, dif_neg missing]

/-- **What seeing to a path and the directories above it does**: it adds directories on the path.
After a success the path leads to a directory, and after a failure there is nothing left to add. -/
structure Founded (p : Path) (t : FileTree) (outcome : Except FileFault Unit × FileTree) :
    Prop where
  along : ExtendsAlong p t outcome.2
  folder : outcome.1 = .ok () → ∃ l, outcome.2.Folder p l
  again : ∀ f, outcome.1 = .error f →
    ∃ f', (ensureDirectories p).run.run outcome.2 = (.error f', outcome.2)

/-- What seeing to one directory adds is on its path. -/
theorem founded_of_ensureDirectory (done : (ensureDirectory p).run.run t = (.ok (), t')) :
    Founded p t (.ok (), t') := by
  rcases ensureDirectory_cases t p with ⟨l, free, made⟩ | ⟨l, folder, made⟩ | ⟨f, made⟩
  · obtain ⟨-, rfl⟩ := Prod.mk.inj (done.symm.trans made)
    have opens := opens_put_of_free free
    obtain ⟨-, -, -, -, -, none⟩ := (walks_of_locate free).exists_of_free
    exact ⟨.put none opens, fun _ => ⟨l, .inl opens⟩, nofun⟩
  · obtain ⟨-, rfl⟩ := Prod.mk.inj (done.symm.trans made)
    exact ⟨.refl p _, fun _ => ⟨l, folder⟩, nofun⟩
  · cases done.symm.trans made

/-- Where the directories above cannot be seen to, neither can the one below them. -/
theorem exists_error_of_parent (names : p.parts ≠ []) {f : FileFault}
    (above : (ensureDirectories p.parent).run.run t = (.error f, t)) :
    ∃ f', (ensureDirectories p).run.run t = (.error f', t) := by
  have none (l) : ¬ t.Folder p.parent l := fun folder => by
    cases above.symm.trans (ensureDirectories_of_folder folder)
  rcases ensureDirectory_cases t p with ⟨l, free, -⟩ | ⟨l, folder, -⟩ | ⟨f', failed⟩
  · obtain ⟨l', parent⟩ := exists_folder_parent names free
    exact absurd parent (none l')
  · obtain ⟨e, located, -⟩ := folder.exists_locate
    obtain ⟨l', parent⟩ := exists_folder_parent names located
    exact absurd parent (none l')
  · by_cases blocked : p.parts = [] ∨ f'.problem ≠ .noEntry
    · exact ⟨f', ensureDirectories_of_blocked failed blocked⟩
    · refine ⟨f, ?_⟩
      rw [ensureDirectories_of_missing failed blocked]
      exact run_bind_of_error above

/-- Where a directory above is there, failing once is failing again. -/
theorem exists_error_of_folder {f : FileFault} (above : t.Folder p.parent l)
    (failed : (ensureDirectory p).run.run t = (.error f, t)) :
    (ensureDirectories p).run.run t = (.error f, t) := by
  by_cases blocked : p.parts = [] ∨ f.problem ≠ .noEntry
  · exact ensureDirectories_of_blocked failed blocked
  · rw [ensureDirectories_of_missing failed blocked,
      run_bind_of_ok (ensureDirectories_of_folder above)]
    exact failed

/-- **Seeing to a path and the directories above it** does no more and no less. -/
theorem founded_ensureDirectories (p : Path) (t : FileTree) :
    Founded p t ((ensureDirectories p).run.run t) := by
  induction p using ensureDirectories.induct with
  | case1 p ih =>
      rcases first : (ensureDirectory p).run.run t with ⟨f | _, t₁⟩
      · obtain rfl := eq_of_ensureDirectory_error first
        by_cases blocked : p.parts = [] ∨ f.problem ≠ .noEntry
        · have failed := ensureDirectories_of_blocked first blocked
          rw [failed]
          exact ⟨.refl p _, nofun, fun _ _ => ⟨f, failed⟩⟩
        · have names : p.parts ≠ [] := (not_or.mp blocked).1
          rw [ensureDirectories_of_missing first blocked]
          have above := ih f blocked
          rcases second : (ensureDirectories p.parent).run.run t₁ with ⟨f' | _, t₂⟩
          · rw [second] at above
            rw [run_bind_of_error second]
            obtain ⟨f'', again⟩ := above.again f' rfl
            exact ⟨above.along.of_parent, nofun, fun _ _ => exists_error_of_parent names again⟩
          · rw [second] at above
            rw [run_bind_of_ok second]
            obtain ⟨l, folder⟩ := above.folder rfl
            rcases third : (ensureDirectory p).run.run t₂ with ⟨f' | _, t₃⟩
            · obtain rfl := eq_of_ensureDirectory_error third
              have failed := exists_error_of_folder folder third
              exact ⟨above.along.of_parent, nofun, fun _ _ => ⟨f', failed⟩⟩
            · have last := founded_of_ensureDirectory third
              exact ⟨above.along.of_parent.trans last.along, last.folder, nofun⟩
      · rw [ensureDirectories_of_ok first]
        exact founded_of_ensureDirectory first

end FileAction

namespace FileTree

/-- **There are no links in the output tree**: where a root leads, once there is a directory, no
link is below. -/
def OutputLinkFree (t : FileTree) (root : Path) : Prop :=
  ∀ t' l, (ensureDirectories root).run.run t = (.ok (), t') → t'.Opens root l → t.LinkFreeBelow l

/-- Without links in a tree there are none in the output tree. -/
theorem LinkFree.outputLinkFree (h : t.LinkFree) (root : Path) : t.OutputLinkFree root :=
  fun _ l _ _ q e found => h (l ++ q) e found

/-- No links are added on a path. -/
theorem LinkFreeBelow.along (h : t.LinkFreeBelow l) (added : ExtendsAlong p t t') :
    t'.LinkFreeBelow l := by
  intro q e found
  rcases added.new (l ++ q) with same | ⟨-, directory, -⟩
  · exact h q e (same ▸ found)
  · rw [directory] at found
    cases found
    exact nofun

/-- **The root is founded**, and there are no links below it unless it is closed. -/
theorem OutputLinkFree.founded (h : t.OutputLinkFree p)
    (done : (ensureDirectories p).run.run t = (.ok (), t')) :
    ExtendsAlong p t t' ∧
      ((∃ l, t'.Opens p l ∧ t'.LinkFreeBelow l) ∨ ∃ l, t'.Shuts p l) := by
  have founded := founded_ensureDirectories p t
  rw [done] at founded
  obtain ⟨l, opens | shuts⟩ := founded.folder rfl
  · exact ⟨founded.along, .inl ⟨l, opens, (h t' l done opens).along founded.along⟩⟩
  · exact ⟨founded.along, .inr ⟨l, shuts⟩⟩

/-- **A root that is settled**: nothing is left to be done for it, since it leads to a directory
without links below it or to a closed one, or since it cannot be founded at all. -/
def RootSettled (t : FileTree) (root : Path) : Prop :=
  (∃ f, (ensureDirectories root).run.run t = (.error f, t)) ∨ (∃ l, t.Shuts root l) ∨
    ∃ l, t.Opens root l ∧ t.LinkFreeBelow l

/-- Where a root is settled, there are no links in the output tree. -/
theorem RootSettled.outputLinkFree (h : t.RootSettled p) : t.OutputLinkFree p := by
  intro t' l' done opens'
  rcases h with ⟨f, failed⟩ | ⟨l, shuts⟩ | ⟨l, opens, linkFree⟩
  · cases done.symm.trans failed
  · cases done.symm.trans (ensureDirectories_of_folder (.inr shuts))
    exact absurd shuts opens'.not_shuts
  · cases done.symm.trans (ensureDirectories_of_opens opens)
    exact Folder.unique (.inl opens) (.inl opens') ▸ linkFree

end FileTree

end ProcessStubs
