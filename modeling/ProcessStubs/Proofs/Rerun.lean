import ProcessStubs.Proofs.Gains
import ProcessStubs.Proofs.Turns

/-!
# Runs that are repeated

A run that is repeated finds what the first one has left. Either the way to the modules cannot be
made, and then no module is written in either run, or the first run has made it and stored the texts
of its modules, and the second run stores the same texts in the same order. So both say the same,
and the second one leaves each file as it is. Only how it is said that the output directory cannot
be made may differ, if the first run has created directories above it.

## Main definitions

* `Blocked`, `Clear`: a way to the modules that cannot be made, and one that can.
* `Run.Repeats`: what a run is to the one that it repeats.

## Main results

* `Blocked.attempt`, `Clear.attempt`: each stub comes to the same in both runs.
* `Run.repeats_of_blocked`, `Run.repeats_of_clear`: where the way cannot be made, and where it can.
* `Run.exists_repeats`: a run over documents that read the same repeats the one before it.
-/

namespace ProcessStubs

open FileTree FileAction

/-- Nothing can be created at a path that holds the character zero. -/
theorem FileAction.ensureDirectories_of_hasZero {p : Path} (zero : p.hasZero = true)
    (t : FileTree) : (ensureDirectories p).run.run t = (.error ⟨.zeroCharacter, p⟩, t) := by
  have located (aim : Aim) : t.locate aim p = .error ⟨.zeroCharacter, p⟩ := by
    rw [locate, if_pos zero]
  have asked : t.isDirectory p = .ok false := by
    rw [isDirectory, lookup, located]
    rfl
  have failed : (ensureDirectory p).run.run t = (.error ⟨.zeroCharacter, p⟩, t) := by
    rw [ensureDirectory_of_fault (createDirectory_of_error (located .itself)), asked]
    rfl
  exact ensureDirectories_of_blocked failed (.inr (by simp))

/-- A root that is refused and refused again is refused for the same reason, or for reasons that are
no mistakes. -/
theorem FileTree.RefusedAgain.eq_or_noMistake {t : FileTree} {root : Path} {f f' : FileFault}
    (h : t.RefusedAgain root f f') : f' = f ∨ NoMistake f ∧ NoMistake f' := by
  obtain ⟨t', failed, again⟩ := h
  cases zero : root.hasZero with
  | true =>
      cases failed.symm.trans (ensureDirectories_of_hasZero zero t)
      cases again.symm.trans (ensureDirectories_of_hasZero zero _)
      exact .inl rfl
  | false =>
      have own := ensureDirectories_failsOnly zero
      exact .inr ⟨own _ _ (congrArg Prod.fst failed), own _ _ (congrArg Prod.fst again)⟩

/-- Reports that match have the same stubs written. -/
theorem Report.Matches.stubs_eq {place : Path → Path} {near : WriteProblem → WriteProblem → Prop}
    {r r' : Report} (h : r.Matches (Write.Matches place) near r') :
    r'.writes.map Write.stub = r.writes.map Write.stub := by
  have told := h.writes
  generalize r.writes = writes, r'.writes = writes' at told
  induction told with
  | nil => rfl
  | cons first _ ih => rw [List.map_cons, List.map_cons, first.stub, ih]

/-- **Problems of a root that is refused and refused again.** -/
def RefusedLikewise (t : FileTree) (root : Path) (problem problem' : WriteProblem) : Prop :=
  ∃ f f', problem = .file (.unusable f) ∧ problem' = .file (.unusable f') ∧
    t.RefusedAgain root f f'

/-- A stub of the settings has the way of their package, if its name can be used. -/
theorem Settings.Makes.placeable {s : Settings} {paths : List Path} {u : Stub}
    (h : s.Makes paths u) (valid : isPackageName s.packageName = true)
    (usable : u.unusableName? = none) :
    u.Placeable ∧ u.packageNames = Text.split '.' s.packageName := by
  rw [Stub.packageNames, h.packageName]
  exact ⟨⟨h.packageName ▸ valid, Stub.isUsableName_of_unusableName?_eq_none usable⟩, rfl⟩

/-- What a stub of the settings comes to where the way of their package cannot be made. -/
theorem Settings.Makes.write_of_blocked {s : Settings} {paths : List Path} {u : Stub}
    {root : Path} {packageMarkers : Bool} {store : Store} {f : FileFault} {t : FileTree}
    (h : s.Makes paths u) (valid : isPackageName s.packageName = true)
    (blocked : (makeWay root packageMarkers (Text.split '.' s.packageName)).run.run store.files =
      (.error f, t)) :
    (∃ problem, u.unusableName? = some problem ∧
      (Destination.directory root packageMarkers).write store u = (.error problem, store)) ∨
    u.unusableName? = none ∧ (Destination.directory root packageMarkers).write store u =
      (.error (.file (.unusable f)), { store with files := t }) := by
  cases named : u.unusableName? with
  | some problem => exact .inl ⟨problem, rfl, Destination.write_of_unusable named⟩
  | none =>
      obtain ⟨placeable, names⟩ := h.placeable valid named
      exact .inr ⟨rfl, Destination.write_of_makeWay_error placeable named (names ▸ blocked)⟩

/-- Nothing is left there but what trying to make the way has left. -/
theorem Settings.Makes.files_of_blocked {s : Settings} {paths : List Path} {u : Stub}
    {root : Path} {packageMarkers : Bool} {store : Store} {f : FileFault} {t : FileTree}
    (h : s.Makes paths u) (valid : isPackageName s.packageName = true)
    (blocked : (makeWay root packageMarkers (Text.split '.' s.packageName)).run.run store.files =
      (.error f, t)) :
    ((Destination.directory root packageMarkers).write store u).2 = store ∨
      ((Destination.directory root packageMarkers).write store u).2.files = t := by
  rcases h.write_of_blocked valid blocked with ⟨_, -, refused⟩ | ⟨-, refused⟩
  · exact .inl (congrArg Prod.snd refused)
  · exact .inr (congrArg (Store.files ∘ Prod.snd) refused)

/-! ### A way that cannot be made -/

/-- **A way that stays blocked**: making it fails in a tree, and fails again in the tree that this
leaves, which stays as it is. The fault is the same then, or the root is refused again. -/
structure Blocked (s : Settings) (root : Path) (packageMarkers : Bool) (t t₁ : FileTree)
    (f f' : FileFault) : Prop where
  first : (makeWay root packageMarkers (Text.split '.' s.packageName)).run.run t = (.error f, t₁)
  again : (makeWay root packageMarkers (Text.split '.' s.packageName)).run.run t₁ = (.error f', t₁)
  likewise : f' = f ∨ t.RefusedAgain root f f'

/-- The files are as they were, or as trying to make the way has left them. -/
def Tried (t t₁ : FileTree) (a : Store) : Prop := a.files = t ∨ a.files = t₁

/-- Where trying changes nothing, there is one tree. -/
theorem Tried.eq {t₁ : FileTree} {a : Store} (h : Tried t₁ t₁ a) : a.files = t₁ := or_self_iff.mp h

namespace Blocked

variable {s : Settings} {paths : List Path} {root : Path} {packageMarkers : Bool}
  {t t₁ : FileTree} {f f' : FileFault} {a b : Store} {u : Stub}

/-- After it was tried, the way stays blocked for its second fault. -/
theorem later (h : Blocked s root packageMarkers t t₁ f f') :
    Blocked s root packageMarkers t₁ t₁ f' f' := ⟨h.again, h.again, .inl rfl⟩

/-- The way is refused at each turn, for its second fault or for one that this follows. -/
theorem refused (h : Blocked s root packageMarkers t t₁ f f') (ha : Tried t t₁ a) :
    ∃ g, (makeWay root packageMarkers (Text.split '.' s.packageName)).run.run a.files =
      (.error g, t₁) ∧ (f' = g ∨ t.RefusedAgain root g f') := by
  rcases ha with first | tried
  · rw [first]
    exact ⟨f, h.first, h.likewise⟩
  · rw [tried]
    exact ⟨f', h.again, .inl rfl⟩

/-- A stub leaves the files as they were, or as trying to make the way has left them. -/
theorem keeps (h : Blocked s root packageMarkers t t₁ f f')
    (valid : isPackageName s.packageName = true) (makes : s.Makes paths u) (ha : Tried t t₁ a) :
    Tried t t₁ ((Destination.directory root packageMarkers).write a u).2 := by
  obtain ⟨g, refused, -⟩ := h.refused ha
  rcases makes.files_of_blocked valid refused with same | left
  · rwa [same]
  · exact .inr left

/-- **A stub is refused** before and after the way was tried, and likewise. -/
theorem attempt (h : Blocked s root packageMarkers t t₁ f f')
    (valid : isPackageName s.packageName = true) (makes : s.Makes paths u) (ha : Tried t t₁ a)
    (hb : Tried t₁ t₁ b) :
    Attempt (Write.Matches id) (RefusedLikewise t root)
      ((Destination.directory root packageMarkers).write a u).1
      ((Destination.directory root packageMarkers).write b u).1 := by
  obtain ⟨g, refused, told⟩ := h.refused ha
  have refused' := hb.eq ▸ h.again
  rcases makes.write_of_blocked valid refused with ⟨problem, named, failed⟩ | ⟨named, failed⟩
  · rw [failed, Destination.write_of_unusable named]
    exact .error problem
  · rcases makes.write_of_blocked valid refused' with ⟨_, other, -⟩ | ⟨-, failed'⟩
    · cases named.symm.trans other
    · rw [failed, failed']
      rcases told with rfl | told
      · exact .error _
      · rcases told.eq_or_noMistake with rfl | ⟨own, own'⟩
        · exact .error _
        · exact .near ⟨g, f', rfl, rfl, told⟩ (isOwn_of_noMistake own) (isOwn_of_noMistake own')

end Blocked

/-! ### A way that can be made -/

/-- **A way that is clear**: making it in a tree leaves one without links where it leads to a
directory, closed or not, and is not made again. -/
structure Clear (s : Settings) (root : Path) (packageMarkers : Bool) (t : FileTree) (l : Location)
    (t₁ : FileTree) : Prop where
  first : (makeWay root packageMarkers (Text.split '.' s.packageName)).run.run t = (.ok (), t₁)
  again : ∀ t', Grows t₁ t' →
    (makeWay root packageMarkers (Text.split '.' s.packageName)).run.run t' = (.ok (), t')
  folder : t₁.Folder (root.below (Text.split '.' s.packageName)) (l ++ Text.split '.' s.packageName)
  free : t₁.LinkFree

/-- The files have gained nothing yet, or they have the way and the modules of writes. -/
structure OnTheWay (t : FileTree) (l : Location) (t₁ : FileTree) (a : Store) : Prop where
  gains : Gains t a.files
  files : a.files = t ∨ ∃ writes, Filled l t₁ writes a.files

namespace Clear

variable {s : Settings} {paths : List Path} {root : Path} {packageMarkers : Bool}
  {t t₁ t' : FileTree} {l : Location} {writes : List Write} {a b : Store} {u : Stub}

/-- After writes, the way is still clear, and there. -/
theorem later (h : Clear s root packageMarkers t l t₁) (filled : Filled l t₁ writes t') :
    Clear s root packageMarkers t' l t' where
  first := h.again t' filled.grows
  again t'' growth := h.again t'' (filled.grows.trans growth)
  folder := h.folder.grows filled.grows
  free := filled.linkFree h.free

/-- Making the way before or after writes leads to the tree after these. -/
theorem made (h : Clear s root packageMarkers t l t₁)
    (ha : writes = [] ∧ a.files = t ∨ Filled l t₁ writes a.files) :
    ∃ t', (makeWay root packageMarkers (Text.split '.' s.packageName)).run.run a.files =
      (.ok (), t') ∧ Filled l t₁ writes t' := by
  rcases ha with ⟨rfl, same⟩ | filled
  · rw [same]
    exact ⟨t₁, h.first, .nil⟩
  · exact ⟨a.files, (h.later filled).first, filled⟩

/-- On the way, making it leads to a tree after writes. -/
theorem exists_made (h : Clear s root packageMarkers t l t₁) (ha : OnTheWay t l t₁ a) :
    ∃ writes t', (makeWay root packageMarkers (Text.split '.' s.packageName)).run.run a.files =
      (.ok (), t') ∧ Filled l t₁ writes t' := by
  rcases ha.files with same | ⟨writes, filled⟩
  · exact ⟨[], h.made (.inl ⟨rfl, same⟩)⟩
  · exact ⟨writes, h.made (.inr filled)⟩

/-- What a stub of the settings comes to after writes: it is refused for its names or for the file
at its place, or it is another write. -/
theorem write (h : Clear s root packageMarkers t l t₁) (valid : isPackageName s.packageName = true)
    (makes : s.Makes paths u)
    (made : (makeWay root packageMarkers (Text.split '.' s.packageName)).run.run a.files =
      (.ok (), t')) (filled : Filled l t₁ writes t') :
    (∃ problem, (Destination.directory root packageMarkers).write a u = (.error problem, a)) ∨
    (∃ problem, (Destination.directory root packageMarkers).write a u =
      (.error problem, { a with files := t' })) ∨
    ∃ w t'', (Destination.directory root packageMarkers).write a u =
      (.ok w, { a with files := t'' }) ∧ Filled l t₁ (writes ++ [w]) t'' := by
  cases named : u.unusableName? with
  | some problem => exact .inl ⟨problem, Destination.write_of_unusable named⟩
  | none =>
      obtain ⟨placeable, names⟩ := makes.placeable valid named
      have folder := (h.later filled).folder
      rw [← names] at folder made
      rcases Destination.write_of_makeWay placeable named made folder (filled.linkFree h.free) with
        ⟨problem, -, failed⟩ | ⟨w, t'', -, written, rfl, -, stored⟩
      · exact .inr (.inl ⟨problem, failed⟩)
      · exact .inr (.inr ⟨w, t'', written, filled.concat stored⟩)

/-- A stub leaves the files on the way. -/
theorem keeps (h : Clear s root packageMarkers t l t₁) (valid : isPackageName s.packageName = true)
    (linkFree : t.LinkFree) (makes : s.Makes paths u) (ha : OnTheWay t l t₁ a) :
    OnTheWay t l t₁ ((Destination.directory root packageMarkers).write a u).2 := by
  have package : isPackageName u.packageName = true := makes.packageName ▸ valid
  refine ⟨ha.gains.trans (Destination.gains_write root packageMarkers package
    (ha.gains.linkFree linkFree)), ?_⟩
  obtain ⟨writes, t', made, filled⟩ := h.exists_made ha
  rcases h.write valid makes made filled with
    ⟨_, failed⟩ | ⟨_, failed⟩ | ⟨w, t'', written, filled'⟩
  · rw [failed]
    exact ha.files
  · rw [failed]
    exact .inr ⟨writes, filled⟩
  · rw [written]
    exact .inr ⟨_, filled'⟩

/-- **A stub comes to the same** anywhere on the way: writes have put texts at their places, and
where a text is, another one can be. -/
theorem attempt (h : Clear s root packageMarkers t l t₁)
    (valid : isPackageName s.packageName = true) (makes : s.Makes paths u)
    (near : WriteProblem → WriteProblem → Prop) (ha : OnTheWay t l t₁ a) (hb : OnTheWay t l t₁ b) :
    Attempt (Write.Matches id) near
      ((Destination.directory root packageMarkers).write a u).1
      ((Destination.directory root packageMarkers).write b u).1 := by
  obtain ⟨writes, t', made, filled⟩ := h.exists_made ha
  obtain ⟨writes', t'', made', filled'⟩ := h.exists_made hb
  cases usable : u.unusableName? with
  | some problem =>
      rw [Destination.write_of_unusable usable, Destination.write_of_unusable usable]
      exact .error problem
  | none =>
      obtain ⟨placeable, names⟩ := makes.placeable valid usable
      have folder := h.folder
      rw [← names] at folder made made'
      refine Destination.attempt_of_makeWay placeable usable made made'
        (folder.imp (fun opens => ⟨opens.grows filled.grows, opens.grows filled'.grows⟩)
          fun shuts => ⟨shuts.grows filled.grows, shuts.grows filled'.grows⟩)
        (filled.linkFree h.free) (filled'.linkFree h.free) fun m => ?_
      rcases filled.takesText m, filled'.takesText m with
        ⟨same | ⟨first, takes⟩, same' | ⟨first', takes'⟩⟩
      · exact .inl (same'.trans same.symm)
      · exact .inr ⟨same ▸ first', takes'⟩
      · exact .inr ⟨takes, same' ▸ first⟩
      · exact .inr ⟨takes, takes'⟩

end Clear

namespace Run

/-- **A run that repeats another one**, which was started with a tree: it says the same, but for how
it is said that the root cannot be made, leaves every file as it is, and no module is written. -/
structure Repeats (root : Path) (t : FileTree) (r r' : Run) : Prop where
  /-- The same became of each document and of each stub. -/
  report : r.report.Matches (Write.Matches id) (RefusedLikewise t root) r'.report
  /-- The diagnostics are the same, unless making the root has failed half way. -/
  diagnostics : ¬ t.HalfMakes root → r'.report.diagnostics = r.report.diagnostics
  /-- Everything is as the first run left it. -/
  files : ∀ m, r'.store.files.entryAt? m = r.store.files.entryAt? m
  /-- All modules are unchanged, if the first run has not replaced one by another. -/
  unchanged : NoneReplaced r.report.writes → ∀ w ∈ r'.report.writes, w.status = .unchanged

variable {s : Settings} {store : Store} {r r' : Run} {paths : List Path} {root : Path}
  {packageMarkers : Bool} {t₁ : FileTree} {f : FileFault}

/-- A run that says the same repeats another one, if it leaves the files as they are. -/
theorem Repeats.of_lockstep
    (h : Lockstep (Write.Matches id) (RefusedLikewise store.files root) r r')
    (files : ∀ m, r'.store.files.entryAt? m = r.store.files.entryAt? m)
    (unchanged : NoneReplaced r.report.writes → ∀ w ∈ r'.report.writes, w.status = .unchanged) :
    Repeats root store.files r r' where
  report := h.report
  diagnostics whole := h.report.diagnostics_eq fun problem problem' => by
    rintro ⟨f, f', rfl, rfl, again⟩
    rw [again.eq_of_not_halfMakes whole]
  files := files
  unchanged := unchanged

/-- Where nothing was written, all that was written is unchanged. -/
theorem unchanged_of_no_writes (none : r.report.writes = []) :
    ∀ w ∈ r.report.writes, w.status = .unchanged := by
  rw [none]
  exact nofun

/-- A run that writes nothing and changes nothing repeats itself. -/
theorem Repeats.refl (root : Path) (t : FileTree) (none : r.report.writes = []) :
    Repeats root t r r where
  report := .refl (fun _ => ⟨rfl, rfl⟩) r.report
  diagnostics _ := rfl
  files _ := rfl
  unchanged _ := unchanged_of_no_writes none

section

variable (valid : isPackageName s.packageName = true) (linkFree : store.files.LinkFree)
  (read : ∀ t, Gains store.files t → ∀ p ∈ paths,
    ProcessDocument.ofFile t p = ProcessDocument.ofFile store.files p)
  (done : ofDocuments s (.directory root packageMarkers) store paths = .ok r)

include done

/-- **Where no write has replaced another stub**, no two of them went to one place. -/
theorem nodup_places (none : NoneReplaced r.report.writes) (l : Location) :
    (r.report.writes.map (·.stub.place l)).Nodup := by
  have targets := nodup_of_noneReplaced done none
  rw [List.Nodup, List.pairwise_map] at targets ⊢
  refine targets.imp_of_mem fun {w w'} hw hw' other same => other ?_
  have package := (made_of_mem_writes done w hw).1.packageName
  have package' := (made_of_mem_writes done w' hw').1.packageName
  have name := List.singleton_inj.mp (List.append_inj' same rfl).2
  rw [Stub.target, Stub.target, package, package', (String.append_left_inj moduleSuffix).mp name]

include valid

/-- A run only adds to the tree. -/
theorem gains_ofDocuments (linkFree : store.files.LinkFree) :
    Gains store.files r.store.files := by
  refine invariant_ofDocuments (P := fun _ _ a => Gains store.files a.files) ?_ .refl done
  intro writes latest a u w? latest' a' makes gains turned
  have package : isPackageName u.packageName = true := makes.packageName ▸ valid
  have step := Destination.gains_write root packageMarkers package (gains.linkFree linkFree)
  cases turned with
  | passed => exact gains
  | failed done | written _ done =>
      rw [done] at step
      exact gains.trans step

/-- **Where the way cannot be made**, a run writes no modules and tries at most to make the way. -/
theorem writes_of_blocked {f' : FileFault}
    (blocked : Blocked s root packageMarkers store.files t₁ f f') :
    r.report.writes = [] ∧ (r.store = store ∨ r.store.files = t₁) := by
  refine invariant_ofDocuments (P := fun writes _ a =>
    writes = [] ∧ (a = store ∨ a.files = t₁)) ?_ ⟨rfl, .inl rfl⟩ done
  rintro writes latest a u w? latest' a' makes ⟨rfl, ha⟩ turned
  obtain ⟨g, refused, -⟩ := blocked.refused (ha.imp_left (congrArg Store.files))
  cases turned with
  | passed => exact ⟨rfl, ha⟩
  | failed done =>
      have left := makes.files_of_blocked valid refused
      rw [done] at left
      refine ⟨rfl, left.elim (fun same => ?_) .inr⟩
      rwa [show a' = a from same]
  | written _ done =>
      rcases makes.write_of_blocked valid refused with ⟨_, -, other⟩ | ⟨-, other⟩ <;>
        cases done.symm.trans other

include linkFree read

/-- **Where the way cannot be made**, a run that comes after one that has tried repeats it. -/
theorem repeats_of_blocked
    (failed : (makeWay root packageMarkers (Text.split '.' s.packageName)).run.run store.files =
      (.error f, t₁)) :
    ∃ r', ofDocuments s (.directory root packageMarkers) r.store paths = .ok r' ∧
      Repeats root store.files r r' := by
  have usable (name : String) (hname : name ∈ Text.split '.' s.packageName) :
      Text.isUsableName name = true := isUsableName_of_mem_package valid hname
  obtain ⟨f', again, likewise⟩ := exists_makeWay_error usable linkFree failed
  have blocked : Blocked s root packageMarkers store.files t₁ f f' := ⟨failed, again, likewise⟩
  have gained : Gains store.files t₁ := by
    have gains := gains_makeWay root packageMarkers usable linkFree
    rwa [failed] at gains
  have reads (p : Path) (hp : p ∈ paths) (a b : Store) (ha : Tried store.files t₁ a)
      (hb : Tried t₁ t₁ b) :
      ProcessDocument.ofFile b.files p = ProcessDocument.ofFile a.files p := by
    rw [hb.eq, read t₁ gained p hp]
    rcases ha with first | tried
    · rw [first]
    · rw [tried, read t₁ gained p hp]
  obtain ⟨none, same | left⟩ := writes_of_blocked valid done blocked
  · rw [same]
    exact ⟨r, done, .refl root store.files none⟩
  · have both := lockstep_ofDocuments (fun a u makes => blocked.keeps valid makes)
      (fun b u makes => blocked.later.keeps valid makes)
      (fun a b u makes => blocked.attempt valid makes) reads (.inl rfl) (.inl left)
    rw [done] at both
    obtain ⟨r', done', lockstep⟩ := both.exists_of_ok_left
    have still : Blocked s root packageMarkers r.store.files t₁ f' f' := by
      rw [left]
      exact blocked.later
    obtain ⟨none', left'⟩ := writes_of_blocked valid done' still
    refine ⟨r', done', .of_lockstep lockstep (fun m => ?_) fun _ => unchanged_of_no_writes none'⟩
    rw [left'.elim (fun same => same ▸ left) id, left]

end

section

variable {l : Location} (valid : isPackageName s.packageName = true)
  (clear : Clear s root packageMarkers store.files l t₁)
  (done : ofDocuments s (.directory root packageMarkers) store paths = .ok r)

include valid clear done

/-- **Where the way can be made**, a run does nothing or leaves the tree after its writes. -/
theorem filled_of_clear :
    r.report.writes = [] ∧ r.store = store ∨ Filled l t₁ r.report.writes r.store.files := by
  refine invariant_ofDocuments (P := fun writes _ a =>
    writes = [] ∧ a = store ∨ Filled l t₁ writes a.files) ?_ (.inl ⟨rfl, rfl⟩) done
  intro writes latest a u w? latest' a' makes ha turned
  obtain ⟨t, made, filled⟩ := clear.made (ha.imp_left (.imp_right (congrArg Store.files)))
  have outcome := clear.write valid makes made filled
  cases turned with
  | passed => simpa using ha
  | failed done =>
      rw [done] at outcome
      rcases outcome with ⟨_, same⟩ | ⟨_, same⟩ | ⟨_, _, other, -⟩
      · cases same
        simpa using ha
      · cases same
        simpa using .inr filled
      · cases other
  | written _ done =>
      rw [done] at outcome
      rcases outcome with ⟨_, other⟩ | ⟨_, other⟩ | ⟨_, _, same, filled'⟩
      · cases other
      · cases other
      · cases same
        exact .inr filled'

variable (linkFree : store.files.LinkFree)
  (read : ∀ t, Gains store.files t → ∀ p ∈ paths,
    ProcessDocument.ofFile t p = ProcessDocument.ofFile store.files p)
  (named : ∀ p ∈ paths, '\r' ∉ p.name.toList)

include linkFree read named

/-- **Where the way can be made**, a run that comes after one that has written repeats it. -/
theorem repeats_of_clear :
    ∃ r', ofDocuments s (.directory root packageMarkers) r.store paths = .ok r' ∧
      Repeats root store.files r r' := by
  rcases filled_of_clear valid clear done with ⟨none, same⟩ | filled
  · rw [same]
    exact ⟨r, done, .refl root store.files none⟩
  have reads (p : Path) (hp : p ∈ paths) (a b : Store) (ha : OnTheWay store.files l t₁ a)
      (hb : OnTheWay store.files l t₁ b) :
      ProcessDocument.ofFile b.files p = ProcessDocument.ofFile a.files p := by
    rw [read _ ha.gains p hp, read _ hb.gains p hp]
  have both := lockstep_ofDocuments (fun a u makes => clear.keeps valid linkFree makes)
    (fun b u makes => clear.keeps valid linkFree makes)
    (fun a b u makes => clear.attempt valid makes (RefusedLikewise store.files root)) reads
    ⟨.refl, .inl rfl⟩ ⟨gains_ofDocuments valid done linkFree, .inr ⟨_, filled⟩⟩
  rw [done] at both
  obtain ⟨r', done', lockstep⟩ := both.exists_of_ok_left
  have filled' : Filled l r.store.files r'.report.writes r'.store.files := by
    rcases filled_of_clear valid (clear.later filled) done' with ⟨none, same⟩ | filled'
    · rw [none, same]
      exact .nil
    · exact filled'
  have stubs := lockstep.report.stubs_eq
  have returns : ∀ w ∈ r.report.writes, '\r' ∉ w.stub.moduleText.toList := by
    intro w hw
    obtain ⟨makes, usable⟩ := made_of_mem_writes done w hw
    exact makes.not_mem_moduleText named usable
  exact ⟨r', done', .of_lockstep lockstep (filled.again filled' stubs returns) fun none =>
    filled.unchanged filled' stubs returns (nodup_places done none l)⟩

end

/-- **A run over documents that read the same** after whatever is written repeats one that has gone
before it. -/
theorem exists_repeats (valid : isPackageName s.packageName = true)
    (linkFree : store.files.LinkFree)
    (read : ∀ t, Gains store.files t → ∀ p ∈ paths,
      ProcessDocument.ofFile t p = ProcessDocument.ofFile store.files p)
    (named : ∀ p ∈ paths, '\r' ∉ p.name.toList)
    (done : ofDocuments s (.directory root packageMarkers) store paths = .ok r) :
    ∃ r', ofDocuments s (.directory root packageMarkers) r.store paths = .ok r' ∧
      Repeats root store.files r r' := by
  have usable (name : String) (hname : name ∈ Text.split '.' s.packageName) :
      Text.isUsableName name = true := isUsableName_of_mem_package valid hname
  have gains := gains_makeWay root packageMarkers usable linkFree
  rcases made :
      (makeWay root packageMarkers (Text.split '.' s.packageName)).run.run store.files with
    ⟨f | _, t₁⟩
  · exact repeats_of_blocked valid linkFree read done made
  · rw [made] at gains
    obtain ⟨l, folder, again⟩ := exists_folder_of_makeWay usable linkFree made
    exact repeats_of_clear valid ⟨made, again, folder, gains.linkFree linkFree⟩ done linkFree read
      named

end Run

end ProcessStubs
