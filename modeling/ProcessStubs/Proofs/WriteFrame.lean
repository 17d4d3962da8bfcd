import ProcessStubs.Proofs.Containment
import ProcessStubs.Proofs.Groundwork

/-!
# What one write changes

Writing a module below a root makes the way to it and then stores its text. The way consists of new
directories on the path of the root, and of the directories of the package with their markers. All
that was there stays, except that the module itself may be written over.

## Main definitions

* `FileTree.NewInPackage`: a new directory of a package, or a new marker in one.
* `FileTree.WayMade`, `Stub.Reached`: the way to a module is there, and nothing else is new.
* `FileTree.TextStored`, `ModuleStored`: what became of a text, and of a module.

## Main results

* `FileTree.Folder.enterAll_extends`, `FileTree.Folder.enterAll_wayMade`: entering the directories
  of a package.
* `Stub.Placeable.moduleStored`: writing a module, whether it succeeds or not.
* `Destination.moduleStored_of_writeText`: one write to a directory.
-/

namespace ProcessStubs

open FileTree FileAction

variable {t t' t'' : FileTree} {root p : Path} {l m : Location} {name : String}
  {names : List String} {packageMarkers : Bool}

namespace FileTree

/-- **What is new in a package** below a location: a directory of it, or a marker in one. -/
inductive NewInPackage (names : List String) (packageMarkers : Bool) (l : Location)
    (t t' : FileTree) : Location → Prop
  | directory {q : List String} : q <+: names → q ≠ [] → t.entryAt? (l ++ q) = none →
      t'.entryAt? (l ++ q) = some .directory → NewInPackage names packageMarkers l t t' (l ++ q)
  | marker {q : List String} : packageMarkers = true → q <+: names → q ≠ [] →
      t.entryAt? (l ++ q ++ [packageMarkerName]) = none →
      t'.entryAt? (l ++ q ++ [packageMarkerName]) = some (.file packageMarkerText.toUTF8) →
      NewInPackage names packageMarkers l t t' (l ++ q ++ [packageMarkerName])

namespace NewInPackage

/-- What is new is new for a tree that has less, and for one that has more. -/
theorem widen (h : NewInPackage names packageMarkers l t t' m) {before after : FileTree}
    (earlier : Extends before t) (later : t'.entryAt? m = after.entryAt? m) :
    NewInPackage names packageMarkers l before after m := by
  cases h with
  | directory beginning nonempty free new =>
      exact .directory beginning nonempty (earlier.free free) (later ▸ new)
  | marker markers beginning nonempty free new =>
      exact .marker markers beginning nonempty (earlier.free free) (later ▸ new)

/-- What is new further down a package is new in it. -/
theorem cons (h : NewInPackage names packageMarkers (l ++ [name]) t t' m) :
    NewInPackage (name :: names) packageMarkers l t t' m := by
  cases h with
  | @directory q beginning nonempty free new =>
      rw [List.append_assoc] at free new ⊢
      exact .directory (List.prefix_cons_inj name |>.mpr beginning) (List.cons_ne_nil _ _) free new
  | @marker q markers beginning nonempty free new =>
      rw [List.append_assoc l [name] q] at free new ⊢
      exact .marker markers (List.prefix_cons_inj name |>.mpr beginning) (List.cons_ne_nil _ _)
        free new

end NewInPackage

/-- **A tree with additions to a package** below a location and no other change. -/
structure ExtendsPackage (names : List String) (packageMarkers : Bool) (l : Location)
    (t t' : FileTree) : Prop extends Extends t t' where
  new : ∀ m, t'.entryAt? m = t.entryAt? m ∨ NewInPackage names packageMarkers l t t' m

namespace ExtendsPackage

/-- A tree can stay as it is. -/
theorem refl (t : FileTree) : ExtendsPackage names packageMarkers l t t :=
  ⟨.refl t, fun _ => .inl rfl⟩

/-- What is added to a package step by step is added to it. -/
theorem trans (h : ExtendsPackage names packageMarkers l t t')
    (h' : ExtendsPackage names packageMarkers l t' t'') :
    ExtendsPackage names packageMarkers l t t'' := by
  refine ⟨h.toExtends.trans h'.toExtends, fun m => ?_⟩
  rcases h'.new m with same | new
  · exact (h.new m).imp same.trans (·.widen (.refl t) same.symm)
  · exact .inr (new.widen h.toExtends rfl)

/-- A new directory at the top of a package. -/
theorem put_directory (free : t.entryAt? (l ++ [name]) = none) :
    ExtendsPackage (name :: names) packageMarkers l t (t.put (l ++ [name]) .directory) := by
  refine ⟨extends_put free _, fun m => ?_⟩
  by_cases same : m = l ++ [name]
  · rw [same]
    exact .inr (.directory (by simp) (by simp) free (entryAt?_put_self t (by simp) _))
  · exact .inl (entryAt?_put_of_ne t same _)

/-- A new marker at the top of a package. -/
theorem put_marker (markers : packageMarkers = true)
    (free : t.entryAt? (l ++ [name] ++ [packageMarkerName]) = none) :
    ExtendsPackage (name :: names) packageMarkers l t
      (t.put (l ++ [name] ++ [packageMarkerName]) (.file packageMarkerText.toUTF8)) := by
  refine ⟨extends_put free _, fun m => ?_⟩
  by_cases same : m = l ++ [name] ++ [packageMarkerName]
  · rw [same]
    exact .inr (.marker markers (by simp) (by simp) free (entryAt?_put_self t (by simp) _))
  · exact .inl (entryAt?_put_of_ne t same _)

/-- Additions further down a package are additions to it. -/
theorem cons (h : ExtendsPackage names packageMarkers (l ++ [name]) t t') :
    ExtendsPackage (name :: names) packageMarkers l t t' :=
  ⟨h.toExtends, fun m => (h.new m).imp_right (·.cons)⟩

/-- No links are added to a package. -/
theorem linkFreeBelow (h : ExtendsPackage names packageMarkers l t t') {n : Location}
    (linkFree : t.LinkFreeBelow n) : t'.LinkFreeBelow n := by
  intro q e found
  rcases h.new (n ++ q) with same | new
  · exact linkFree q e (same ▸ found)
  · generalize n ++ q = place at found new
    cases new with
    | directory _ _ _ new =>
        cases found.symm.trans new
        exact nofun
    | marker _ _ _ _ new =>
        cases found.symm.trans new
        exact nofun

end ExtendsPackage

/-- **A directory is importable**: its marker is there, and it is no link. -/
structure Marked (t : FileTree) (p : Path) (l : Location) : Prop where
  fits : p.Fits packageMarkerName
  found : ∃ e, t.entryAt? (l ++ [packageMarkerName]) = some e ∧ IsEnd e

/-- A directory stays importable. -/
theorem Marked.grows (h : t.Marked p l) (growth : Grows t t') : t'.Marked p l := by
  obtain ⟨fits, e, found, ends⟩ := h
  obtain ⟨e', found', becomes⟩ := growth.entry _ e found
  exact ⟨fits, e', found', becomes.isEnd ends⟩

namespace Opens

variable {result : Except FileFault Unit}

/-- **Seeing to it that there is a directory** below a directory adds it at most. -/
theorem ensureDirectory_extends (h : t.Opens p l) (usable : Text.isUsableName name = true)
    (linkFree : t.LinkFreeBelow l)
    (done : (ensureDirectory (p.child name)).run.run t = (result, t')) :
    ExtendsPackage (name :: names) packageMarkers l t t' := by
  by_cases fits : p.Fits name
  · cases found : t.entryAt? (l ++ [name]) with
    | none =>
        rw [h.ensureDirectory_free fits found] at done
        cases done
        exact .put_directory found
    | some e =>
        rw [h.ensureDirectory_taken fits found (linkFree [name] e found)] at done
        cases done
        exact .refl t
  · rw [h.ensureDirectory_long (isEntryName_of_isUsableName usable) (h.hasZero_child usable)
      fits] at done
    cases done
    exact .refl t

end Opens

namespace Folder

/-- **Making a directory importable** adds a marker at most, and after a success it is. -/
theorem ensureMarker_extends (h : t.Folder (p.child name) (l ++ [name]))
    (linkFree : t.LinkFreeBelow (l ++ [name])) (markers : packageMarkers = true)
    {result : Except FileFault Unit}
    (done : (ensureMarker (p.child name)).run.run t = (result, t')) :
    ExtendsPackage (name :: names) packageMarkers l t t' ∧
      (result = .ok () → t'.Marked (p.child name) (l ++ [name])) := by
  rcases h with opens | shuts
  · by_cases fits : (p.child name).Fits packageMarkerName
    · cases found : t.entryAt? (l ++ [name] ++ [packageMarkerName]) with
      | none =>
          rw [opens.ensureMarker_free fits found] at done
          cases done
          exact ⟨.put_marker markers found,
            fun _ => ⟨fits, _, entryAt?_put_self t (by simp) _, nofun⟩⟩
      | some e =>
          have ends := linkFree [packageMarkerName] e found
          rw [opens.ensureMarker_taken fits found ends] at done
          cases done
          exact ⟨.refl t, fun _ => ⟨fits, e, found, ends⟩⟩
    · rw [opens.ensureMarker_long fits] at done
      cases done
      exact ⟨.refl t, nofun⟩
  · cases done.symm.trans shuts.ensureMarker_error
    exact ⟨.refl t, nofun⟩

/-- **Entering a directory** adds it and its marker at most; after a success it is importable. -/
theorem enterDirectory_extends (h : t.Folder p l) (usable : Text.isUsableName name = true)
    (linkFree : t.LinkFreeBelow l) {result : Except FileFault Path}
    (done : (enterDirectory packageMarkers p name).run.run t = (result, t')) :
    ExtendsPackage (name :: names) packageMarkers l t t' ∧
      ∀ x, result = .ok x → packageMarkers = true → t'.Marked (p.child name) (l ++ [name]) := by
  rcases h with opens | shuts
  · rcases first : (ensureDirectory (p.child name)).run.run t with ⟨f | _, t₁⟩
    · rw [enterDirectory, run_bind_of_error first] at done
      cases done
      exact ⟨opens.ensureDirectory_extends usable linkFree first, fun _ failed => by cases failed⟩
    · have added : ExtendsPackage (name :: names) packageMarkers l t t₁ :=
        opens.ensureDirectory_extends usable linkFree first
      have folder := opens.child_of_ensureDirectory usable linkFree first
      have linkFree' := (added.linkFreeBelow linkFree).below [name]
      rw [enterDirectory, run_bind_of_ok first] at done
      cases hm : packageMarkers with
      | false =>
          subst hm
          cases done
          exact ⟨added, fun _ _ unmarked => by cases unmarked⟩
      | true =>
          subst hm
          rcases second : (ensureMarker (p.child name)).run.run t₁ with ⟨f | _, t₂⟩
          · cases done.symm.trans (run_bind_of_error second)
            exact ⟨added.trans (folder.ensureMarker_extends linkFree' rfl second).1,
              fun _ failed => by cases failed⟩
          · cases done.symm.trans (run_bind_of_ok second)
            obtain ⟨marked, there⟩ : ExtendsPackage (name :: names) true l t₁ t' ∧ _ :=
              folder.ensureMarker_extends linkFree' rfl second
            exact ⟨added.trans marked, fun _ _ _ => there rfl⟩
  · cases done.symm.trans (enterDirectory_of_shuts shuts usable packageMarkers)
    exact ⟨.refl t, fun _ failed => by cases failed⟩

/-- **Entering the directories of a package** adds them and their markers at most. -/
theorem enterAll_extends (h : t.Folder p l)
    (usable : ∀ name ∈ names, Text.isUsableName name = true)
    (linkFree : t.LinkFreeBelow l) {result : Except FileFault Path}
    (done : (names.foldlM (enterDirectory packageMarkers) p).run.run t = (result, t')) :
    ExtendsPackage names packageMarkers l t t' := by
  induction names generalizing p l t with
  | nil =>
      cases done
      exact .refl _
  | cons name rest ih =>
      obtain ⟨usable_first, others⟩ := List.forall_mem_cons.mp usable
      rw [List.foldlM_cons] at done
      rcases first : (enterDirectory packageMarkers p name).run.run t with ⟨f | x, t₁⟩
      · cases done.symm.trans (run_bind_of_error first)
        exact (h.enterDirectory_extends usable_first linkFree first).1
      · rw [run_bind_of_ok first] at done
        have added : ExtendsPackage (name :: rest) packageMarkers l t t₁ :=
          (h.enterDirectory_extends usable_first linkFree first).1
        obtain ⟨rfl, folder⟩ := h.child_of_enterDirectory usable_first linkFree first
        have linkFree' := (added.linkFreeBelow linkFree).below [name]
        exact added.trans (ih folder others linkFree' done).cons

/-- No package is entered below a closed directory. -/
theorem exists_enterAll_of_shuts (h : t.Shuts p l)
    (usable : ∀ name ∈ names, Text.isUsableName name = true) (nonempty : names ≠ []) :
    ∃ f, (names.foldlM (enterDirectory packageMarkers) p).run.run t = (.error f, t) := by
  obtain ⟨name, rest, rfl⟩ := List.exists_cons_of_ne_nil nonempty
  rw [List.foldlM_cons]
  exact ⟨_, run_bind_of_error (enterDirectory_of_shuts h (usable name List.mem_cons_self) _)⟩

end Folder

/-- **The way to a module is there**: the directories of the package below the root, each of them
importable if there are to be markers. -/
structure WayMade (root : Path) (names : List String) (packageMarkers : Bool) (l : Location)
    (t : FileTree) : Prop where
  opens : ∀ q, q <+: names → t.Opens (root.below q) (l ++ q)
  marked : packageMarkers = true → ∀ q, q <+: names → q ≠ [] → t.Marked (root.below q) (l ++ q)

namespace WayMade

/-- The root leads to its location. -/
theorem opens_root (h : WayMade root names packageMarkers l t) : t.Opens root l := by
  simpa [Path.below] using h.opens [] List.nil_prefix

/-- The package leads to its directory. -/
theorem opens_package (h : WayMade root names packageMarkers l t) :
    t.Opens (root.below names) (l ++ names) :=
  h.opens names List.prefix_rfl

/-- A way stays there. -/
theorem grows (h : WayMade root names packageMarkers l t) (growth : Grows t t') :
    WayMade root names packageMarkers l t' where
  opens q hq := (h.opens q hq).grows growth
  marked markers q hq nonempty := (h.marked markers q hq nonempty).grows growth

/-- The way along no names is there. -/
theorem nil (h : t.Opens p l) : WayMade p [] packageMarkers l t where
  opens q hq := by
    rw [List.prefix_nil.mp hq]
    simpa [Path.below] using h
  marked _ q hq nonempty := absurd (List.prefix_nil.mp hq) nonempty

/-- The way to a package goes on from its first directory. -/
theorem cons_iff (p : Path) (name : String) (names : List String) :
    WayMade p (name :: names) packageMarkers l t ↔
      t.Opens p l ∧ (packageMarkers = true → t.Marked (p.child name) (l ++ [name])) ∧
      WayMade (p.child name) names packageMarkers (l ++ [name]) t := by
  have path (q : List String) : (p.child name).below q = p.below (name :: q) := by
    simp [Path.below, Path.child]
  have place (q : List String) : l ++ [name] ++ q = l ++ name :: q := by simp
  constructor
  · intro h
    refine ⟨h.opens_root, fun markers => ?_, fun q hq => ?_, fun markers q hq nonempty => ?_⟩
    · have first : [name] <+: name :: names := by simp
      exact h.marked markers [name] first (List.cons_ne_nil _ _)
    · rw [path, place]
      exact h.opens _ ((List.prefix_cons_inj name).mpr hq)
    · rw [path, place]
      exact h.marked markers _ ((List.prefix_cons_inj name).mpr hq) (List.cons_ne_nil _ _)
  · rintro ⟨above, marked, h⟩
    constructor
    · intro q hq
      rcases List.prefix_cons_iff.mp hq with rfl | ⟨q, rfl, beginning⟩
      · simpa [Path.below] using above
      · rw [← path, ← place]
        exact h.opens q beginning
    · intro markers q hq nonempty
      rcases List.prefix_cons_iff.mp hq with rfl | ⟨q, rfl, beginning⟩
      · exact absurd rfl nonempty
      · by_cases last : q = []
        · subst last
          exact marked markers
        · rw [← path, ← place]
          exact h.marked markers q beginning last

/-- The way to a package of one name, where its directory and its marker are there. -/
theorem single (above : t.Opens p l) (fits : p.Fits name)
    (directory : t.entryAt? (l ++ [name]) = some .directory)
    (marked : t.Marked (p.child name) (l ++ [name])) : WayMade p [name] packageMarkers l t :=
  (cons_iff p name []).mpr ⟨above, fun _ => marked, .nil (above.child fits directory)⟩

end WayMade

/-- **After a success** the way to the package is there, or its last directory is closed. -/
theorem Folder.enterAll_wayMade (h : t.Folder p l)
    (usable : ∀ name ∈ names, Text.isUsableName name = true) (linkFree : t.LinkFreeBelow l)
    {x : Path}
    (done : (names.foldlM (enterDirectory packageMarkers) p).run.run t = (.ok x, t')) :
    WayMade p names packageMarkers l t' ∨ t'.Shuts (p.below names) (l ++ names) := by
  induction names generalizing p l t with
  | nil =>
      cases done
      simpa [Path.below] using h.imp_left .nil
  | cons name rest ih =>
      obtain ⟨usable_first, others⟩ := List.forall_mem_cons.mp usable
      rw [List.foldlM_cons] at done
      obtain ⟨y, t₁, first, later⟩ := exists_of_run_bind_ok done
      obtain ⟨added, marked⟩ : ExtendsPackage (name :: rest) packageMarkers l t t₁ ∧ _ :=
        h.enterDirectory_extends usable_first linkFree first
      obtain ⟨rfl, folder⟩ := h.child_of_enterDirectory usable_first linkFree first
      have linkFree' := (added.linkFreeBelow linkFree).below [name]
      have growth := (folder.enterAll_extends others linkFree' later).grows
      rcases h with opens | shuts
      · refine (ih folder others linkFree' later).imp (fun way => ?_) fun closed => ?_
        · exact (WayMade.cons_iff p name rest).mpr ⟨opens.grows (added.grows.trans growth),
            fun markers => (marked _ rfl markers).grows growth, way⟩
        · simpa [Path.below, Path.child] using closed
      · cases first.symm.trans (enterDirectory_of_shuts shuts usable_first packageMarkers)

/-- **A way that is there** is not made again. -/
theorem WayMade.enterAll (h : WayMade p names packageMarkers l t) :
    (names.foldlM (enterDirectory packageMarkers) p).run.run t = (.ok (p.below names), t) := by
  induction names generalizing p l with
  | nil => simp [Path.below]; rfl
  | cons name rest ih =>
      obtain ⟨above, marked, h⟩ := (WayMade.cons_iff p name rest).mp h
      have entered :
          (enterDirectory packageMarkers p name).run.run t = (.ok (p.child name), t) := by
        rw [enterDirectory, run_bind_of_ok (ensureDirectory_of_opens h.opens_root)]
        cases packageMarkers with
        | false => rfl
        | true =>
            obtain ⟨fits, e, found, ends⟩ := marked rfl
            exact run_bind_of_ok (h.opens_root.ensureMarker_taken fits found ends)
      rw [List.foldlM_cons, run_bind_of_ok entered, ih h]
      simp [Path.below, Path.child]

/-- **What becomes of a text** that is stored at a location: it is there already, it is written
where there is no file or another text, or it cannot be stored. -/
inductive TextStored (place : Location) (text : String) (t : FileTree) :
    Except WriteProblem WriteStatus → FileTree → Prop
  | unchanged {old : ByteArray} : t.entryAt? place = some (.file old) →
      textOfBytes old = .ok text → TextStored place text t (.ok .unchanged) t
  | fresh : t.entryAt? place = none →
      TextStored place text t (.ok .written) (t.put place (.file text.toUTF8))
  | replaced {old : ByteArray} {current : String} : t.entryAt? place = some (.file old) →
      textOfBytes old = .ok current → current ≠ text →
      TextStored place text t (.ok .written) (t.put place (.file text.toUTF8))
  | failed (problem : WriteProblem) : TextStored place text t (.error problem) t

/-- Storing a text at a name below a directory that is not closed. -/
theorem Opens.textStored (h : t.Opens p l) (linkFree : t.LinkFreeBelow l) (entry : IsEntryName name)
    (nonzero : (p.child name).hasZero = false) {text : String}
    {result : Except WriteProblem WriteStatus}
    (done : (storeText (p.child name) text).run.run t = (result, t')) :
    TextStored (l ++ [name]) text t result t' := by
  by_cases fits : p.Fits name
  · have directory {e : FileEntry} (found : t.entryAt? (l ++ [name]) = some e)
        (folder : e.isDirectory = true) : TextStored (l ++ [name]) text t result t' := by
      have stored := storeText_of_other (h.text?_directory fits found folder)
        (Option.some_ne_none text).symm (h.writeFile_directory fits found folder text.toUTF8)
      cases done.symm.trans stored
      exact .failed _
    rcases found : t.entryAt? (l ++ [name]) with _ | (old | _ | _ | _ | target)
    · have stored := storeText_of_other (h.text?_free fits found) (Option.some_ne_none text).symm
        (h.writeFile_free fits found text.toUTF8)
      cases done.symm.trans stored
      exact .fresh found
    · have asked := h.text?_file fits found
      rcases read : textOfBytes old with f | current
      · rw [read] at asked
        cases done.symm.trans (storeText_of_unread asked text)
        exact .failed _
      · rw [read] at asked
        by_cases same : current = text
        · subst same
          cases done.symm.trans (storeText_of_same asked)
          exact .unchanged found read
        · have stored := storeText_of_other asked (fun heq => same (Option.some.inj heq))
            (h.writeFile_file fits found text.toUTF8)
          cases done.symm.trans stored
          exact .replaced found read same
    · cases done.symm.trans (storeText_of_unread (h.text?_sealed fits found) text)
      exact .failed _
    · exact directory found rfl
    · exact directory found rfl
    · exact absurd rfl (linkFree [name] _ found target)
  · cases done.symm.trans (storeText_of_unread (h.text?_long entry nonzero fits) text)
    exact .failed _

/-- **Storing a text** at a name below a directory, closed or not. -/
theorem Folder.textStored (h : t.Folder p l) (linkFree : t.LinkFreeBelow l)
    (entry : IsEntryName name) (nonzero : (p.child name).hasZero = false) {text : String}
    {result : Except WriteProblem WriteStatus}
    (done : (storeText (p.child name) text).run.run t = (result, t')) :
    TextStored (l ++ [name]) text t result t' := by
  rcases h with opens | shuts
  · exact opens.textStored linkFree entry nonzero done
  · cases done.symm.trans (shuts.storeText_child entry.1.1 nonzero text)
    exact .failed _

namespace TextStored

variable {place : Location} {text : String} {result : Except WriteProblem WriteStatus}

/-- A text that was stored has changed no other place. -/
theorem entryAt?_of_ne (h : TextStored place text t result t') (other : m ≠ place) :
    t'.entryAt? m = t.entryAt? m := by
  cases h with
  | unchanged | failed => rfl
  | fresh | replaced => exact entryAt?_put_of_ne t other _

/-- A text is stored where there is nothing or another text. -/
theorem grows (h : TextStored place text t result t') (nonempty : place ≠ []) : Grows t t' := by
  cases h with
  | unchanged | failed => exact .refl t
  | fresh free => exact grows_put nonempty fun old found => by cases free.symm.trans found
  | replaced found read =>
      refine grows_put nonempty fun old found' => ?_
      cases found.symm.trans found'
      exact .text ⟨_, read⟩ (holdsText_toUTF8 text)

/-- Storing a text adds no links. -/
theorem linkFreeBelow (h : TextStored place text t result t') (linkFree : t.LinkFreeBelow l) :
    t'.LinkFreeBelow l := by
  cases h with
  | unchanged | failed => exact linkFree
  | fresh | replaced => exact linkFree.put nofun

end TextStored

/-- A text can be stored only in a directory that is not closed. -/
theorem Folder.opens_of_storeText (h : t.Folder p l) (entry : IsEntryName name)
    (nonzero : (p.child name).hasZero = false) {text : String} {status : WriteStatus}
    (done : (storeText (p.child name) text).run.run t = (.ok status, t')) : t.Opens p l := by
  refine h.resolve_right fun shuts => ?_
  cases done.symm.trans (shuts.storeText_child entry.1.1 nonzero text)

/-- A text can be stored only at a name that fits. -/
theorem Opens.fits_of_storeText (h : t.Opens p l) (entry : IsEntryName name)
    (nonzero : (p.child name).hasZero = false) {text : String} {status : WriteStatus}
    (done : (storeText (p.child name) text).run.run t = (.ok status, t')) : p.Fits name := by
  by_contra long
  cases done.symm.trans (storeText_of_unread (h.text?_long entry nonzero long) text)

end FileTree

/-! ### The way to a module, and the module -/

/-- The names of the package of a stub. -/
def Stub.packageNames (u : Stub) : List String := Text.split '.' u.packageName

/-- The package of a stub has names. -/
theorem Stub.packageNames_ne_nil (u : Stub) : u.packageNames ≠ [] := by
  rw [packageNames, Text.split, ne_eq, List.map_eq_nil_iff]
  exact Text.splitWhere_ne_nil _ _

/-- Where the module of a stub is below a location. -/
def Stub.place (u : Stub) (l : Location) : Location :=
  l ++ u.packageNames ++ [u.typeName ++ moduleSuffix]

/-- A stub whose module has a place: its package and its type have usable names. -/
structure Stub.Placeable (u : Stub) : Prop where
  package : isPackageName u.packageName = true
  type : Text.isUsableName u.typeName = true

/-- **The way to the module of a stub** below a root: it is there, and nothing else is new. -/
structure Stub.Reached (u : Stub) (root : Path) (packageMarkers : Bool) (l : Location)
    (t t' : FileTree) : Prop extends Extends t t' where
  way : WayMade root u.packageNames packageMarkers l t'
  linkFree : t'.LinkFreeBelow l
  new : ∀ m, t'.entryAt? m = t.entryAt? m ∨ NewOnPath root t t' m ∨
    NewInPackage u.packageNames packageMarkers l t t' m

namespace Stub.Placeable

variable {u : Stub}

/-- The names of the package are usable. -/
theorem usable (h : u.Placeable) : ∀ name ∈ u.packageNames, Text.isUsableName name = true :=
  fun _ hname => isUsableName_of_mem_package h.package hname

/-- The path of the module is that of its file below the directories of the package. -/
theorem path (h : u.Placeable) (root : Path) :
    root / u.relativePath moduleSuffix =
      (root.below u.packageNames).child (u.typeName ++ moduleSuffix) := by
  rw [u.relativePath_of_isPackageName h.package h.type]
  change Path.mk root.anchor (root.parts ++ (_ ++ _)) = _
  rw [← List.append_assoc]
  rfl

/-- **Making the way to a module** adds to a tree at most, and after a success the way is there and
nothing else is new, unless the directory of the package is closed. -/
theorem reached (h : u.Placeable) (clear : t.OutputLinkFree root) {result : Except FileFault Unit}
    (done : (ensurePackage root packageMarkers (u.relativePath moduleSuffix)).run.run t =
      (result, t')) :
    Extends t t' ∧ t'.RootSettled root ∧
      (result = .ok () → (∃ l, u.Reached root packageMarkers l t t') ∨
        ∃ l, t'.Shuts (root.below u.packageNames) l) := by
  rw [ensurePackage_eq h.package h.type] at done
  rcases first : (ensureDirectories root).run.run t with ⟨f | _, t₁⟩
  · cases done.symm.trans (run_bind_of_error first)
    have founded := founded_ensureDirectories root t
    rw [first] at founded
    exact ⟨founded.along.toExtends, .inl (founded.again f rfl), nofun⟩
  · rw [run_bind_of_ok first] at done
    obtain ⟨along, ⟨l, opens, linkFree⟩ | ⟨l, shuts⟩⟩ := clear.founded first
    · have folder : t₁.Folder root l := .inl opens
      rcases second : (u.packageNames.foldlM (enterDirectory packageMarkers) root).run.run t₁ with
        ⟨f | x, t₂⟩
      · cases done.symm.trans (run_bind_of_error second)
        have added := folder.enterAll_extends h.usable linkFree second
        exact ⟨along.toExtends.trans added.toExtends,
          .inr (.inr ⟨l, opens.grows added.grows, added.linkFreeBelow linkFree⟩), nofun⟩
      · cases done.symm.trans (run_bind_of_ok second)
        have added := folder.enterAll_extends h.usable linkFree second
        have whole := along.toExtends.trans added.toExtends
        have linkFree' := added.linkFreeBelow linkFree
        refine ⟨whole, .inr (.inr ⟨l, opens.grows added.grows, linkFree'⟩), fun _ => ?_⟩
        refine (folder.enterAll_wayMade h.usable linkFree second).imp (fun way => ?_) fun closed =>
          ⟨_, closed⟩
        refine ⟨l, whole, way, linkFree', fun m => ?_⟩
        rcases added.new m with same | new
        · rcases along.new m with same' | ⟨free, directory, names, beginning, opens'⟩
          · exact .inl (same.trans same')
          · exact .inr (.inl ⟨free, same.trans directory, names, beginning,
              opens'.grows added.grows⟩)
        · exact .inr (.inr (new.widen along.toExtends rfl))
    · obtain ⟨f, failed⟩ := Folder.exists_enterAll_of_shuts shuts h.usable u.packageNames_ne_nil
      cases done.symm.trans (run_bind_of_error failed)
      exact ⟨along.toExtends, .inr (.inl ⟨l, shuts⟩), nofun⟩

end Stub.Placeable

/-- **What one write leaves**: the way to the module cannot be made, or it is made and something
becomes of the text. -/
inductive ModuleStored (root : Path) (packageMarkers : Bool) (u : Stub) (text : String)
    (t : FileTree) : Except WriteProblem WriteStatus → FileTree → Prop
  | blocked {t' : FileTree} (problem : WriteProblem) : Extends t t' → t'.RootSettled root →
      ModuleStored root packageMarkers u text t (.error problem) t'
  | stored {l : Location} {t₁ t' : FileTree} {result : Except WriteProblem WriteStatus} :
      u.Reached root packageMarkers l t t₁ → TextStored (u.place l) text t₁ result t' →
      (∀ status, result = .ok status →
        (root.below u.packageNames).Fits (u.typeName ++ moduleSuffix)) →
      ModuleStored root packageMarkers u text t result t'

namespace Stub.Placeable

variable {u : Stub}

/-- The file of the module has a name of an entry. -/
theorem entry (h : u.Placeable) : IsEntryName (u.typeName ++ moduleSuffix) :=
  (isPlainName_fileName h.type).entry

/-- Something can be at the place of the module. -/
theorem hasZero_module (h : u.Placeable) {q : Path} (above : q.hasZero = false) :
    (q.child (u.typeName ++ moduleSuffix)).hasZero = false := by
  rw [Path.hasZero_eq_false_iff] at above ⊢
  refine List.forall_mem_append.mpr ⟨above, ?_⟩
  simp [moduleSuffix, Text.not_mem_of_isUsableName h.type Text.isIdentifierPart_zero]

/-- **Writing a module** below a root. -/
theorem moduleStored (h : u.Placeable) (clear : t.OutputLinkFree root) {text : String}
    {result : Except WriteProblem WriteStatus}
    (done : (storeModule root packageMarkers (u.relativePath moduleSuffix) text).run.run t =
      (result, t')) : ModuleStored root packageMarkers u text t result t' := by
  rw [storeModule_eq] at done
  rcases first : (ensurePackage root packageMarkers (u.relativePath moduleSuffix)).run.run t with
    ⟨f | _, t₁⟩
  · cases done.symm.trans (run_bind_of_error (run_adapt first))
    obtain ⟨added, settled, -⟩ := h.reached clear first
    exact .blocked _ added settled
  · rw [run_bind_of_ok (run_adapt first), h.path root] at done
    obtain ⟨added, settled, made⟩ := h.reached clear first
    obtain ⟨l, reached⟩ | ⟨l, shuts⟩ := made rfl
    · have package := reached.way.opens_package
      have nonzero := h.hasZero_module package.hasZero_eq_false
      have linkFree := reached.linkFree.below u.packageNames
      refine .stored reached (package.textStored linkFree h.entry nonzero done) ?_
      rintro status rfl
      exact package.fits_of_storeText h.entry nonzero done
    · have nonzero := h.hasZero_module (isPossible_of_locate shuts).nonzero
      cases done.symm.trans (shuts.storeText_child h.entry.1.1 nonzero text)
      exact .blocked _ added settled

/-- **A way that is there** is not made again. -/
theorem ensurePackage_of_wayMade (h : u.Placeable)
    (way : WayMade root u.packageNames packageMarkers l t) :
    (ensurePackage root packageMarkers (u.relativePath moduleSuffix)).run.run t = (.ok (), t) := by
  rw [ensurePackage_eq h.package h.type, run_bind_of_ok (ensureDirectories_of_opens way.opens_root)]
  exact run_bind_of_ok way.enterAll

/-- **Where a module is there already**, its way is not made again, and its text is compared with
the one that is read. -/
theorem storeModule_of_wayMade (h : u.Placeable)
    (way : WayMade root u.packageNames packageMarkers l t)
    (fits : (root.below u.packageNames).Fits (u.typeName ++ moduleSuffix)) {bytes : ByteArray}
    {current : String} (found : t.entryAt? (u.place l) = some (.file bytes))
    (read : textOfBytes bytes = .ok current) (text : String) :
    (storeModule root packageMarkers (u.relativePath moduleSuffix) text).run.run t =
      if current = text then (.ok .unchanged, t)
      else (.ok .written, t.put (u.place l) (.file text.toUTF8)) := by
  have package := way.opens_package
  have asked := package.text?_file fits found
  rw [read] at asked
  rw [storeModule_eq, run_bind_of_ok (run_adapt (h.ensurePackage_of_wayMade way)), h.path root]
  split
  · next same =>
      subst same
      exact storeText_of_same asked
  · next other =>
      exact storeText_of_other asked (fun same => other (Option.some.inj same))
        (package.writeFile_file fits found text.toUTF8)

end Stub.Placeable

/-- A stub that can be written is, if its module is stored. -/
theorem Destination.exists_writeText_of_stored {u : Stub} (usable : u.unusableName? = none)
    (store : Store) {text : String} {status : WriteStatus} {files : FileTree}
    (stored : (storeModule root packageMarkers (u.relativePath moduleSuffix) text).run.run
      store.files = (.ok status, files)) :
    ∃ w, (Destination.directory root packageMarkers).writeText store u text =
      (.ok w, { store with files := files }) ∧ w.status = status := by
  obtain ⟨w, -, -, rfl, put⟩ := put_of_ok store stored u
  refine ⟨w, ?_, rfl⟩
  rw [writeText, usable]
  exact put

/-- **A write to a directory** leaves what storing the module does. -/
theorem Destination.moduleStored_of_writeText {u : Stub}
    (package : isPackageName u.packageName = true) (usable : u.unusableName? = none)
    {store store' : Store} (clear : store.files.OutputLinkFree root) {text : String}
    {outcome : Except WriteProblem Write}
    (done : (Destination.directory root packageMarkers).writeText store u text =
      (outcome, store')) :
    ModuleStored root packageMarkers u text store.files (outcome.map Write.status) store'.files ∧
      store'.modules = store.modules ∧
      ∀ w, outcome = .ok w → w.stub = u ∧ w.path = root / u.relativePath moduleSuffix := by
  have placeable : u.Placeable := ⟨package, Stub.isUsableName_of_unusableName?_eq_none usable⟩
  rw [writeText, usable] at done
  rcases stored : (storeModule root packageMarkers (u.relativePath moduleSuffix) text).run.run
    store.files with ⟨problem | status, files⟩
  · cases done.symm.trans (put_of_error store stored u)
    exact ⟨placeable.moduleStored clear stored, rfl, fun _ failed => by cases failed⟩
  · obtain ⟨w, stub, path, rfl, put⟩ := put_of_ok store stored u
    cases done.symm.trans put
    refine ⟨placeable.moduleStored clear stored, rfl, ?_⟩
    rintro _ ⟨⟩
    exact ⟨stub, path⟩

end ProcessStubs
