import ProcessStubs.Proofs.Ways

/-!
# What a tree gains by writing

Whatever writing modules below a root does to a tree, it does step by step: a directory is created
at a free name, or the text of a module is put in place of nothing or of another text. So all that
holds of a tree and is kept by such steps holds after any writes, whether they succeed or not.

## Main definitions

* `FileTree.Gain`, `FileTree.Gains`: one step, and any number of them.
* `FileTree.Grounded`: whatever there is has a short name and is in a directory.

## Main results

* `FileTree.Gains.proper`, `FileTree.Gains.grounded`, `FileTree.Gains.linkFree`: what steps keep.
* `FileTree.Gains.entry_cases`: what there can be after steps.
* `Destination.gains_write`: writing a stub takes such steps.
-/

namespace ProcessStubs

open FileTree FileAction

variable {t t' : FileTree} {root p : Path} {l m : Location} {name : String} {names : List String}
  {packageMarkers : Bool}

namespace FileTree

/-- **One thing more in a tree**: a directory of a free name, or the text of a module in place of
nothing or of another text. -/
inductive Gain (t : FileTree) : FileTree → Prop
  | directory {l : Location} {name : String} : t.entryAt? l = some .directory → IsShortName name →
      t.entryAt? (l ++ [name]) = none → Gain t (t.put (l ++ [name]) .directory)
  | module {l : Location} {name : String} {bytes : ByteArray} : t.entryAt? l = some .directory →
      IsShortName (name ++ moduleSuffix) →
      (∀ e, t.entryAt? (l ++ [name ++ moduleSuffix]) = some e →
        ∃ old, e = .file old ∧ HoldsText old) →
      HoldsText bytes → Gain t (t.put (l ++ [name ++ moduleSuffix]) (.file bytes))

/-- Any number of things more in a tree. -/
abbrev Gains : FileTree → FileTree → Prop := Relation.ReflTransGen Gain

/-- **A grounded tree**: whatever there is has a short name and is in a directory. -/
structure Grounded (t : FileTree) : Prop where
  named : ∀ l name e, t.entryAt? (l ++ [name]) = some e → IsShortName name
  above : ∀ l name e, t.entryAt? (l ++ [name]) = some e → t.entryAt? l = some .directory

/-- A tree is grounded if each of its entries has a short name and is in a directory. -/
theorem Grounded.of_entries (h : ∀ x ∈ t.entries, ∃ l name, x.1 = l ++ [name] ∧
    IsShortName name ∧ t.entryAt? l = some .directory) : t.Grounded := by
  have place {l : Location} {name : String} {e : FileEntry}
      (found : t.entryAt? (l ++ [name]) = some e) :
      IsShortName name ∧ t.entryAt? l = some .directory := by
    have there := (eq_or_mem_of_entryAt? found).resolve_left (by simp)
    obtain ⟨l', name', same, named, above⟩ := h _ there
    obtain ⟨rfl, last⟩ := List.append_inj' same rfl
    exact ⟨List.singleton_inj.mp last ▸ named, above⟩
  exact ⟨fun l name e found => (place found).1, fun l name e found => (place found).2⟩

/-- A name in a directory of a proper tree makes a location whose names are all those of entries. -/
theorem Proper.named_append {t : FileTree} (proper : t.Proper) {l : Location} {name : String}
    (above : t.entryAt? l = some .directory) (entry : IsEntryName name) :
    ∀ name' ∈ l ++ [name], IsEntryName name' := by
  intro name' hname
  rcases List.mem_append.mp hname with hname | hname
  · rcases eq_or_mem_of_entryAt? above with ⟨rfl, -⟩ | there
    · cases hname
    · exact proper.named _ there name' hname
  · exact List.mem_singleton.mp hname ▸ entry

/-- A tree stays proper if something that is no link is put at a name, in place of no directory. -/
theorem Proper.put {t : FileTree} (proper : t.Proper) {l : Location} {e : FileEntry}
    (named : ∀ name ∈ l, IsEntryName name) (ends : IsEnd e)
    (other : t.entryAt? l ≠ some .directory) : (t.put l e).Proper := by
  refine ⟨Assoc.forall_mem_put named proper.named,
    Assoc.forall_mem_put (fun target link => absurd link (ends target)) proper.targets,
    proper.working_named, ?_⟩
  intro m hm
  have directory := proper.working m hm
  rw [entryAt?_put_of_ne t ?_ e, directory]
  rintro rfl
  exact other directory

namespace Gain

/-- A tree that gains something grows. -/
theorem grows (h : Gain t t') : Grows t t' := by
  cases h with
  | directory _ _ free => exact grows_put (by simp) fun old found => by cases free.symm.trans found
  | module _ _ texts held =>
      refine grows_put (by simp) fun old found => ?_
      obtain ⟨old, rfl, holds⟩ := texts old found
      exact .text holds held

/-- What is put somewhere, and where: a directory or a file, in a directory and of a short name, and
in place of no directory. -/
theorem exists_put (h : Gain t t') :
    ∃ l name e, t' = t.put (l ++ [name]) e ∧ t.entryAt? l = some .directory ∧ IsShortName name ∧
      IsEnd e ∧ t.entryAt? (l ++ [name]) ≠ some .directory := by
  cases h with
  | directory above named free =>
      exact ⟨_, _, _, rfl, above, named, by simp [IsEnd], by simp [free]⟩
  | module above named texts =>
      refine ⟨_, _, _, rfl, above, named, by simp [IsEnd], fun directory => ?_⟩
      obtain ⟨old, file, -⟩ := texts _ directory
      cases file

/-- No links are gained. -/
theorem linkFree (h : Gain t t') (free : t.LinkFree) : t'.LinkFree := by
  obtain ⟨l, name, e, rfl, -, -, ends, -⟩ := h.exists_put
  intro m e' found
  by_cases same : m = l ++ [name]
  · rw [same, entryAt?_put_self t (by simp)] at found
    exact Option.some.inj found ▸ ends
  · rw [entryAt?_put_of_ne t same] at found
    exact free m e' found

/-- What is gained is in a directory. -/
theorem grounded (h : Gain t t') (before : t.Grounded) : t'.Grounded := by
  obtain ⟨l, name, e, same, above, named, -, -⟩ := h.exists_put
  have cases {m : Location} {name' : String} {e' : FileEntry}
      (found : t'.entryAt? (m ++ [name']) = some e') :
      (m = l ∧ name' = name) ∨ t.entryAt? (m ++ [name']) = some e' := by
    rw [same] at found
    by_cases place : m ++ [name'] = l ++ [name]
    · obtain ⟨rfl, last⟩ := List.append_inj' place rfl
      exact .inl ⟨rfl, List.singleton_inj.mp last⟩
    · exact .inr ((entryAt?_put_of_ne t place e).symm.trans found)
  constructor
  · intro m name' e' found
    rcases cases found with ⟨-, rfl⟩ | there
    · exact named
    · exact before.named m name' e' there
  · intro m name' e' found
    rcases cases found with ⟨rfl, -⟩ | there
    · exact h.grows.directory above
    · exact h.grows.directory (before.above m name' e' there)

/-- What is gained has a name of its own. -/
theorem proper (h : Gain t t') (before : t.Proper) : t'.Proper := by
  obtain ⟨l, name, e, rfl, above, named, ends, other⟩ := h.exists_put
  exact before.put (before.named_append above named.entry) ends other

/-- **What there is after a step** was there before, or is a new directory or a module. -/
theorem entry_cases (h : Gain t t') (m : Location) :
    t'.entryAt? m = t.entryAt? m ∨
      t.entryAt? m = none ∧ t'.entryAt? m = some .directory ∨
      ∃ l name bytes, m = l ++ [name ++ moduleSuffix] ∧ t'.entryAt? m = some (.file bytes) := by
  cases h with
  | @directory l name above named free =>
      by_cases same : m = l ++ [name]
      · rw [same]
        exact .inr (.inl ⟨free, entryAt?_put_self t (by simp) _⟩)
      · exact .inl (entryAt?_put_of_ne t same _)
  | @module l name bytes =>
      by_cases same : m = l ++ [name ++ moduleSuffix]
      · rw [same]
        exact .inr (.inr ⟨l, name, bytes, rfl, entryAt?_put_self t (by simp) _⟩)
      · exact .inl (entryAt?_put_of_ne t same _)

end Gain

namespace Gains

/-- A tree that gains things grows. -/
theorem grows (h : Gains t t') : Grows t t' := by
  induction h with
  | refl => exact .refl t
  | tail _ step ih => exact ih.trans step.grows

/-- No links are gained, step by step. -/
theorem linkFree (h : Gains t t') (free : t.LinkFree) : t'.LinkFree := by
  induction h with
  | refl => exact free
  | tail _ step ih => exact step.linkFree ih

/-- A tree stays grounded. -/
theorem grounded (h : Gains t t') (before : t.Grounded) : t'.Grounded := by
  induction h with
  | refl => exact before
  | tail _ step ih => exact step.grounded ih

/-- A tree stays proper. -/
theorem proper (h : Gains t t') (before : t.Proper) : t'.Proper := by
  induction h with
  | refl => exact before
  | tail _ step ih => exact step.proper ih

/-- **What there is after any number of steps** was there before, or is a new directory or a
module. -/
theorem entry_cases (h : Gains t t') (m : Location) :
    t'.entryAt? m = t.entryAt? m ∨
      t.entryAt? m = none ∧ t'.entryAt? m = some .directory ∨
      ∃ l name bytes, m = l ++ [name ++ moduleSuffix] ∧ t'.entryAt? m = some (.file bytes) := by
  induction h with
  | refl => exact .inl rfl
  | tail before step ih =>
      rcases step.entry_cases m with same' | ⟨free', directory'⟩ | module'
      · rw [same']
        exact ih
      · rcases ih with same | ⟨-, directory⟩ | ⟨_, _, _, -, file⟩
        · exact .inr (.inl ⟨same ▸ free', directory'⟩)
        · cases free'.symm.trans directory
        · cases free'.symm.trans file
      · exact .inr (.inr module')

end Gains

end FileTree

/-! ### Actions take such steps -/

namespace FileAction

/-- Seeing to a directory takes such steps. -/
theorem gains_ensureDirectory (t : FileTree) (p : Path) :
    Gains t ((ensureDirectory p).run.run t).2 := by
  rcases ensureDirectory_cases t p with ⟨l, free, made⟩ | ⟨_, _, made⟩ | ⟨_, made⟩
  · obtain ⟨above, name, rfl, named, directory, none⟩ := (walks_of_locate free).exists_of_free
    rw [made]
    exact .single (.directory directory named none)
  · rw [made]
  · rw [made]

/-- Seeing to a directory and those above it takes such steps. -/
theorem gains_ensureDirectories (t : FileTree) (p : Path) :
    Gains t ((ensureDirectories p).run.run t).2 := by
  induction p using ensureDirectories.induct with
  | case1 p ih =>
      have here := gains_ensureDirectory t p
      rcases first : (ensureDirectory p).run.run t with ⟨f | _, t₁⟩
      · obtain rfl := eq_of_ensureDirectory_error first
        by_cases blocked : p.parts = [] ∨ f.problem ≠ .noEntry
        · rw [ensureDirectories_of_blocked first blocked]
        · have above := ih f blocked
          rw [ensureDirectories_of_missing first blocked]
          rcases second : (ensureDirectories p.parent).run.run t₁ with ⟨f' | _, t₂⟩
          · rw [second] at above
            rwa [run_bind_of_error second]
          · rw [second] at above
            rw [run_bind_of_ok second]
            exact above.trans (gains_ensureDirectory t₂ p)
      · rw [first] at here
        rwa [ensureDirectories_of_ok first]

end FileAction

namespace FileTree

/-- A marker has the name of a module. -/
theorem packageMarkerName_eq : packageMarkerName = "__init__" ++ moduleSuffix := by decide

namespace Folder

/-- Making a directory importable takes such steps. -/
theorem gains_ensureMarker (h : t.Folder p l) (linkFree : t.LinkFree) :
    Gains t ((ensureMarker p).run.run t).2 := by
  rcases h with opens | shuts
  · by_cases fits : p.Fits packageMarkerName
    · cases found : t.entryAt? (l ++ [packageMarkerName]) with
      | none =>
          rw [opens.ensureMarker_free fits found]
          rw [packageMarkerName_eq] at found ⊢
          have named := packageMarkerName_eq ▸ fits.named
          refine .single (.module opens.directory named (fun e there => ?_) (holdsText_toUTF8 _))
          cases found.symm.trans there
      | some e => rw [opens.ensureMarker_taken fits found (linkFree _ e found)]
    · rw [opens.ensureMarker_long fits]
  · rw [shuts.ensureMarker_error]

/-- Entering a directory takes such steps. -/
theorem gains_enterDirectory (h : t.Folder p l) (usable : Text.isUsableName name = true)
    (linkFree : t.LinkFree) :
    Gains t ((enterDirectory packageMarkers p name).run.run t).2 := by
  rcases h with opens | shuts
  · have first := gains_ensureDirectory t (p.child name)
    rcases made : (ensureDirectory (p.child name)).run.run t with ⟨f | _, t₁⟩
    · rw [made] at first
      rwa [enterDirectory, run_bind_of_error made]
    · rw [made] at first
      have folder :=
        opens.child_of_ensureDirectory usable (fun q e found => linkFree _ e found) made
      rw [enterDirectory, run_bind_of_ok made]
      cases packageMarkers with
      | false => exact first
      | true =>
          have second := folder.gains_ensureMarker (first.linkFree linkFree)
          rcases marked : (ensureMarker (p.child name)).run.run t₁ with ⟨f | _, t₂⟩
          · rw [marked] at second
            have whole := run_bind_of_error (f := fun _ => pure (p.child name)) marked
            exact whole ▸ first.trans second
          · rw [marked] at second
            have whole := run_bind_of_ok (f := fun _ => pure (p.child name)) marked
            exact whole ▸ first.trans second
  · rw [enterDirectory_of_shuts shuts usable]

/-- Entering the directories of a package takes such steps. -/
theorem gains_enterAll (h : t.Folder p l)
    (usable : ∀ name ∈ names, Text.isUsableName name = true) (linkFree : t.LinkFree) :
    Gains t ((names.foldlM (enterDirectory packageMarkers) p).run.run t).2 := by
  induction names generalizing p l t with
  | nil => exact .refl
  | cons name rest ih =>
      obtain ⟨usable_first, others⟩ := List.forall_mem_cons.mp usable
      have first : Gains t ((enterDirectory packageMarkers p name).run.run t).2 :=
        h.gains_enterDirectory usable_first linkFree
      rw [List.foldlM_cons]
      rcases entered : (enterDirectory packageMarkers p name).run.run t with ⟨f | x, t₁⟩
      · rw [entered] at first
        rwa [run_bind_of_error entered]
      · rw [entered] at first
        rw [run_bind_of_ok entered]
        obtain ⟨rfl, folder⟩ :=
          h.child_of_enterDirectory usable_first (fun q e found => linkFree _ e found) entered
        exact first.trans (ih folder others (first.linkFree linkFree))

end Folder

/-- Storing a text where a module goes takes such steps. -/
theorem TextStored.gains {text : String} {result : Except WriteProblem WriteStatus}
    (h : TextStored (l ++ [name ++ moduleSuffix]) text t result t')
    (above : t.entryAt? l = some .directory)
    (named : ∀ status, result = .ok status → IsShortName (name ++ moduleSuffix)) :
    Gains t t' := by
  cases h with
  | unchanged | failed => exact .refl
  | fresh free =>
      refine .single (.module above (named _ rfl) (fun e found => ?_) (holdsText_toUTF8 text))
      cases free.symm.trans found
  | @replaced old current there read =>
      refine .single (.module above (named _ rfl) (fun e found => ?_) (holdsText_toUTF8 text))
      cases there.symm.trans found
      exact ⟨old, rfl, current, read⟩

end FileTree

/-- Making the way to the modules of a package takes such steps. -/
theorem FileAction.gains_makeWay (root : Path) (packageMarkers : Bool)
    (usable : ∀ name ∈ names, Text.isUsableName name = true) (linkFree : t.LinkFree) :
    Gains t ((makeWay root packageMarkers names).run.run t).2 := by
  have first := gains_ensureDirectories t root
  rcases founded : (ensureDirectories root).run.run t with ⟨f | _, t₁⟩
  · rw [founded] at first
    rwa [makeWay, run_bind_of_error founded]
  · rw [founded] at first
    obtain ⟨l, folder, -⟩ := exists_folder_of_founded linkFree founded
    have second : Gains t₁ ((names.foldlM (enterDirectory packageMarkers) root).run.run t₁).2 :=
      folder.gains_enterAll usable (first.linkFree linkFree)
    rw [makeWay, run_bind_of_ok founded]
    rcases entered : (names.foldlM (enterDirectory packageMarkers) root).run.run t₁ with
      ⟨f | x, t₂⟩
    · rw [entered] at second
      exact (run_bind_of_error entered) ▸ first.trans second
    · rw [entered] at second
      exact (run_bind_of_ok entered) ▸ first.trans second

/-- **Writing a stub** to a directory takes such steps. -/
theorem Destination.gains_write (root : Path) (packageMarkers : Bool) {u : Stub}
    (package : isPackageName u.packageName = true) {store : Store}
    (linkFree : store.files.LinkFree) :
    Gains store.files ((Destination.directory root packageMarkers).write store u).2.files := by
  cases usable : u.unusableName? with
  | some problem =>
      rw [write, writeText, usable]
  | none =>
      have placeable : u.Placeable := ⟨package, Stub.isUsableName_of_unusableName?_eq_none usable⟩
      have way : Gains store.files
          ((makeWay root packageMarkers u.packageNames).run.run store.files).2 :=
        gains_makeWay root packageMarkers placeable.usable linkFree
      rcases made : (makeWay root packageMarkers u.packageNames).run.run store.files with ⟨f | _, t⟩
      · rw [made] at way
        rwa [write_of_makeWay_error placeable usable made]
      · rw [made] at way
        have free := way.linkFree linkFree
        obtain ⟨l, folder, -⟩ := exists_folder_of_makeWay placeable.usable linkFree made
        rcases write_of_makeWay placeable usable made folder free with
          ⟨problem, -, written⟩ | ⟨w, t', done, written, -, -, stored⟩
        · rwa [written]
        · have nonzero := placeable.hasZero_module folder.isPossible.nonzero
          have package := folder.opens_of_storeText placeable.entry nonzero done
          rw [written]
          exact way.trans (stored.gains package.directory fun _ _ =>
            (package.fits_of_storeText placeable.entry nonzero done).named)

/-- A tree in which the root was made grows by writing a stub. -/
theorem Destination.grows_of_founded {u : Stub} (h : u.Placeable) (usable : u.unusableName? = none)
    {store : Store} (founded : (ensureDirectories root).run.run store.files = (.ok (), t))
    (folder : t.Folder root l) (linkFree : t.LinkFree) :
    Grows t ((Destination.directory root packageMarkers).write store u).2.files := by
  have free : ({ store with files := t } : Store).files.LinkFree := linkFree
  rw [write_of_founded h usable founded folder]
  exact (gains_write root packageMarkers h.package free).grows

end ProcessStubs
