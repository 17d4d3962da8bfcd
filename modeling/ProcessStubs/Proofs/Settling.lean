import Mathlib.Logic.Relation
import ProcessStubs.Proofs.Actions

/-!
# Ways to modules that are settled

Creating the directories of a package builds up a tree step by step: a directory of a usable name,
or a marker, where there was nothing. Once this was done it is settled: in whatever the tree grows
to later, it gives the same and changes nothing.

## Main definitions

* `FileTree.Build`: one step of building up a tree below a location.
* `Settles`: an action that builds up a tree, and changes nothing when it is repeated later.

## Main results

* `Settles.bind`: actions that settle one after the other.
* `FileTree.Opens.enterAll_settles`: entering the directories of a package settles.
* `FileTree.Opens.opens_of_enterAll`: where it leads.
-/

namespace ProcessStubs

open FileTree FileAction

namespace FileTree

variable {t t' t'' : FileTree} {l : Location}

/-- **One step of building up a tree** below a location: a directory of a usable name or a marker is
put in a directory where there was nothing. -/
inductive Build (l : Location) (t : FileTree) : FileTree → Prop
  | directory {q : List String} {name : String} : t.entryAt? (l ++ q) = some .directory →
      Text.isUsableName name = true → t.entryAt? (l ++ q ++ [name]) = none →
      Build l t (t.put (l ++ q ++ [name]) .directory)
  | marker {q : List String} : t.entryAt? (l ++ q) = some .directory →
      t.entryAt? (l ++ q ++ [packageMarkerName]) = none →
      Build l t (t.put (l ++ q ++ [packageMarkerName]) (.file packageMarkerText.toUTF8))

/-- Any number of steps. -/
abbrev Builds (l : Location) : FileTree → FileTree → Prop := Relation.ReflTransGen (Build l)

/-- There are no links below a location. -/
def LinkFreeBelow (t : FileTree) (l : Location) : Prop :=
  ∀ q e, t.entryAt? (l ++ q) = some e → IsEnd e

/-- A tree that is built up grows. -/
theorem Build.grows (h : Build l t t') : Grows t t' := by
  cases h with
  | directory _ _ free =>
      refine grows_put (by simp) fun old found => ?_
      cases free.symm.trans found
  | marker _ free =>
      refine grows_put (by simp) fun old found => ?_
      cases free.symm.trans found

/-- A tree that is built up grows, step by step. -/
theorem Builds.grows (h : Builds l t t') : Grows t t' := by
  induction h with
  | refl => exact .refl t
  | tail _ step ih => exact ih.trans step.grows

/-- What is built below a location is built below those above it. -/
theorem Build.above {q : List String} (h : Build (l ++ q) t t') : Build l t t' := by
  cases h with
  | directory above usable free =>
      rw [List.append_assoc l q] at above free ⊢
      exact .directory above usable free
  | marker above free =>
      rw [List.append_assoc l q] at above free ⊢
      exact .marker above free

/-- What is built below a location is built below those above it, step by step. -/
theorem Builds.above {q : List String} (h : Builds (l ++ q) t t') : Builds l t t' := by
  induction h with
  | refl => exact .refl
  | tail _ step ih => exact ih.tail step.above

/-- A directory right at a location. -/
theorem Build.directory_here {name : String} (above : t.entryAt? l = some .directory)
    (usable : Text.isUsableName name = true) (free : t.entryAt? (l ++ [name]) = none) :
    Build l t (t.put (l ++ [name]) .directory) := by
  have step : Build l t (t.put (l ++ [] ++ [name]) .directory) :=
    .directory (by rwa [List.append_nil]) usable (by rwa [List.append_nil])
  rwa [List.append_nil] at step

/-- A marker right at a location. -/
theorem Build.marker_here (above : t.entryAt? l = some .directory)
    (free : t.entryAt? (l ++ [packageMarkerName]) = none) :
    Build l t (t.put (l ++ [packageMarkerName]) (.file packageMarkerText.toUTF8)) := by
  have step : Build l t
      (t.put (l ++ [] ++ [packageMarkerName]) (.file packageMarkerText.toUTF8)) :=
    .marker (by rwa [List.append_nil]) (by rwa [List.append_nil])
  rwa [List.append_nil] at step

/-- What is put below a location is no link. -/
theorem LinkFreeBelow.put (h : t.LinkFreeBelow l) {q : Location} {e : FileEntry} (ends : IsEnd e) :
    (t.put q e).LinkFreeBelow l := by
  intro m e' found
  by_cases same : l ++ m = q
  · rw [same] at found
    by_cases root : q = []
    · subst root
      cases found
      exact nofun
    · rw [entryAt?_put_self t root e] at found
      cases found
      exact ends
  · rw [entryAt?_put_of_ne t same e] at found
    exact h m e' found

/-- No links are built. -/
theorem LinkFreeBelow.build {m : Location} (h : t.LinkFreeBelow l) (step : Build m t t') :
    t'.LinkFreeBelow l := by
  cases step with
  | directory => exact h.put nofun
  | marker => exact h.put nofun

/-- No links are built, step by step. -/
theorem LinkFreeBelow.builds {m : Location} (h : t.LinkFreeBelow l) (steps : Builds m t t') :
    t'.LinkFreeBelow l := by
  induction steps with
  | refl => exact h
  | tail _ step ih => exact ih.build step

/-- There are no links further down either. -/
theorem LinkFreeBelow.below (h : t.LinkFreeBelow l) (q : List String) : t.LinkFreeBelow (l ++ q) :=
  fun m e found => h (q ++ m) e (by rwa [← List.append_assoc])

end FileTree

/-- **An action that settles**: it builds up a tree below a location, and whatever the tree grows to
later, it gives the same and changes nothing. -/
structure Settles {ε α : Type} (l : Location) (a : ExceptT ε (StateM FileTree) α) (t : FileTree) :
    Prop where
  builds : Builds l t (a.run.run t).2
  again : ∀ t', Grows (a.run.run t).2 t' → a.run.run t' = ((a.run.run t).1, t')

namespace Settles

variable {ε ε' α β : Type} {l : Location} {a : ExceptT ε (StateM FileTree) α}
  {f : α → ExceptT ε (StateM FileTree) β} {t : FileTree}

/-- An action that changes nothing, and gives the same later, settles. -/
theorem of_again {result : Except ε α} (first : a.run.run t = (result, t))
    (again : ∀ t', Grows t t' → a.run.run t' = (result, t')) : Settles l a t where
  builds := by rw [first]
  again t' growth := by
    rw [first] at growth ⊢
    exact again t' growth

/-- A result settles. -/
theorem pure (x : α) : Settles l (Pure.pure x : ExceptT ε (StateM FileTree) α) t where
  builds := .refl
  again _ _ := rfl

/-- **Actions that settle** one after the other. -/
theorem bind (ha : Settles l a t)
    (hf : ∀ x t', a.run.run t = (.ok x, t') → Settles l (f x) t') :
    Settles l (a >>= f) t := by
  obtain ⟨builds, again⟩ := ha
  rcases first : a.run.run t with ⟨result, t₁⟩
  rw [first] at builds again
  cases result with
  | error e =>
      have whole := run_bind_of_error (f := f) first
      refine ⟨by rw [whole]; exact builds, ?_⟩
      rw [whole]
      exact fun t' growth => run_bind_of_error (again t' growth)
  | ok x =>
      have whole := run_bind_of_ok (f := f) first
      obtain ⟨later, again'⟩ := hf x t₁ first
      refine ⟨by rw [whole]; exact builds.trans later, ?_⟩
      rw [whole]
      intro t' growth
      rw [run_bind_of_ok (again t' (later.grows.trans growth)), again' t' growth]

/-- What settles below a location settles below those above it. -/
theorem above {q : List String} (h : Settles (l ++ q) a t) : Settles l a t where
  builds := h.builds.above
  again := h.again

end Settles

namespace FileTree.Opens

variable {t : FileTree} {p : Path} {l : Location} {name : String}

/-- A usable name is one of an entry. -/
theorem isEntryName_of_isUsableName (h : Text.isUsableName name = true) : IsEntryName name := by
  have period := Text.not_mem_of_isUsableName h Text.isIdentifierPart_period
  refine ⟨⟨Text.ne_empty_of_isUsableName h, ?_⟩, ?_⟩
  all_goals
    rintro rfl
    exact period (by decide)

/-- Something can be at a usable name below a directory. -/
theorem hasZero_child (h : t.Opens p l) (usable : Text.isUsableName name = true) :
    (p.child name).hasZero = false := by
  have above := h.hasZero_eq_false
  rw [Path.hasZero_eq_false_iff] at above ⊢
  refine List.forall_mem_append.mpr ⟨above, ?_⟩
  simpa using Text.not_mem_of_isUsableName usable Text.isIdentifierPart_zero

/-- **Seeing to it that there is a directory** of a usable name settles. -/
theorem ensureDirectory_settles (h : t.Opens p l) (usable : Text.isUsableName name = true)
    (linkFree : t.LinkFreeBelow l) : Settles l (ensureDirectory (p.child name)) t := by
  by_cases fits : p.Fits name
  · cases found : t.entryAt? (l ++ [name]) with
    | none =>
        have created := h.ensureDirectory_free fits found
        have build : Build l t (t.put (l ++ [name]) .directory) :=
          .directory_here h.directory usable found
        refine ⟨by rw [created]; exact .single build, ?_⟩
        rw [created]
        intro t' growth
        have there := growth.directory (entryAt?_put_self t (by simp) FileEntry.directory)
        exact ensureDirectory_of_opens ((h.grows (build.grows.trans growth)).child fits there)
    | some e =>
        have ends : IsEnd e := linkFree [name] e found
        refine .of_again (h.ensureDirectory_taken fits found ends) ?_
        intro t' growth
        obtain ⟨e', found', becomes⟩ := growth.entry _ _ found
        rw [(h.grows growth).ensureDirectory_taken fits found' (becomes.isEnd ends)]
        rw [becomes.isDirectory_eq]
  · have entry := isEntryName_of_isUsableName usable
    have nonzero := h.hasZero_child usable
    exact .of_again (h.ensureDirectory_long entry nonzero fits) fun t' growth =>
      (h.grows growth).ensureDirectory_long entry nonzero fits

/-- **Making a directory importable** settles. -/
theorem ensureMarker_settles (h : t.Opens p l) (linkFree : t.LinkFreeBelow l) :
    Settles l (ensureMarker p) t := by
  by_cases fits : p.Fits packageMarkerName
  · cases found : t.entryAt? (l ++ [packageMarkerName]) with
    | none =>
        have written := h.ensureMarker_free fits found
        have build : Build l t (t.put (l ++ [packageMarkerName])
            (.file packageMarkerText.toUTF8)) :=
          .marker_here h.directory found
        refine ⟨by rw [written]; exact .single build, ?_⟩
        rw [written]
        intro t' growth
        obtain ⟨e, there, becomes⟩ := growth.entry _ _
          (entryAt?_put_self t (by simp) (.file packageMarkerText.toUTF8))
        exact (h.grows (build.grows.trans growth)).ensureMarker_taken fits there
          (becomes.isEnd nofun)
    | some e =>
        have ends : IsEnd e := linkFree [packageMarkerName] e found
        refine .of_again (h.ensureMarker_taken fits found ends) ?_
        intro t' growth
        obtain ⟨e', found', becomes⟩ := growth.entry _ _ found
        exact (h.grows growth).ensureMarker_taken fits found' (becomes.isEnd ends)
  · exact .of_again (h.ensureMarker_long fits) fun t' growth =>
      (h.grows growth).ensureMarker_long fits

/-- Where a directory of a usable name was seen to, there is one. -/
theorem child_of_ensureDirectory (h : t.Opens p l) (usable : Text.isUsableName name = true)
    (linkFree : t.LinkFreeBelow l) {t' : FileTree}
    (done : (ensureDirectory (p.child name)).run.run t = (.ok (), t')) :
    t'.Folder (p.child name) (l ++ [name]) := by
  by_cases fits : p.Fits name
  · cases found : t.entryAt? (l ++ [name]) with
    | none =>
        have opens := h.grows (h.ensureDirectory_settles usable linkFree).builds.grows
        rw [h.ensureDirectory_free fits found] at opens done
        cases done
        exact .inl (opens.child fits (entryAt?_put_self t (by simp) FileEntry.directory))
    | some e =>
        have ends := linkFree [name] e found
        rw [h.ensureDirectory_taken fits found ends] at done
        by_cases folder : e.isDirectory = true
        · obtain rfl := (Prod.mk.inj done).2
          exact (folder_iff (h.locate_taken .target fits found ends)).mpr folder
        · rw [if_neg folder] at done
          cases done
  · rw [h.ensureDirectory_long (isEntryName_of_isUsableName usable) (h.hasZero_child usable)
      fits] at done
    cases done

/-- Where a directory was seen to and nothing was in the way, it can be entered. -/
theorem opens_of_ensureDirectory (h : t.Opens p l) (linkFree : t.LinkFreeBelow l)
    (fits : p.Fits name) (clear : ∀ e, t.entryAt? (l ++ [name]) = some e → e = .directory)
    {t' : FileTree} (done : (ensureDirectory (p.child name)).run.run t = (.ok (), t')) :
    t'.Opens (p.child name) (l ++ [name]) := by
  cases found : t.entryAt? (l ++ [name]) with
  | none =>
      have build := grows_put (t := t) (l := l ++ [name]) (e := .directory) (by simp)
        fun old there => by cases found.symm.trans there
      rw [h.ensureDirectory_free fits found] at done
      cases done
      exact (h.grows build).child fits (entryAt?_put_self t (by simp) FileEntry.directory)
  | some e =>
      obtain rfl := clear e found
      rw [h.ensureDirectory_taken fits found (linkFree [name] _ found)] at done
      obtain rfl := (Prod.mk.inj done).2
      exact h.child fits found

/-- **Entering a directory** of a usable name settles. -/
theorem enterDirectory_settles (h : t.Opens p l) (usable : Text.isUsableName name = true)
    (linkFree : t.LinkFreeBelow l) (packageMarkers : Bool) :
    Settles l (enterDirectory packageMarkers p name) t := by
  have settles := h.ensureDirectory_settles usable linkFree
  refine settles.bind ?_
  intro _ t' done
  have linkFree' := linkFree.builds settles.builds
  rw [done] at linkFree'
  cases packageMarkers with
  | false => exact .pure _
  | true =>
      refine Settles.above (q := [name]) (Settles.bind ?_ fun _ _ _ => .pure _)
      rcases h.child_of_ensureDirectory usable linkFree done with opens | shuts
      · exact opens.ensureMarker_settles (linkFree'.below [name])
      · exact .of_again shuts.ensureMarker_error fun _ growth =>
          (shuts.grows growth).ensureMarker_error

/-- A directory that was entered is there. -/
theorem child_of_enterDirectory (h : t.Opens p l) (usable : Text.isUsableName name = true)
    (linkFree : t.LinkFreeBelow l) {packageMarkers : Bool} {x : Path} {t' : FileTree}
    (done : (enterDirectory packageMarkers p name).run.run t = (.ok x, t')) :
    x = p.child name ∧ t'.Folder x (l ++ [name]) := by
  obtain ⟨_, t₁, first, later⟩ := exists_of_run_bind_ok done
  have folder := h.child_of_ensureDirectory usable linkFree first
  cases packageMarkers with
  | false =>
      cases later
      exact ⟨rfl, folder⟩
  | true =>
      obtain ⟨_, t₂, marked, ended⟩ := exists_of_run_bind_ok later
      cases ended
      rcases folder with opens | shuts
      · have linkFree' := linkFree.builds (h.ensureDirectory_settles usable linkFree).builds
        rw [first] at linkFree'
        have growth := (opens.ensureMarker_settles (linkFree'.below [name])).builds.grows
        rw [marked] at growth
        exact ⟨rfl, .inl (opens.grows growth)⟩
      · cases marked.symm.trans shuts.ensureMarker_error

/-- A directory can be entered if nothing is in the way. -/
theorem exists_of_enterDirectory (h : t.Opens p l) (usable : Text.isUsableName name = true)
    (linkFree : t.LinkFreeBelow l) (fits : p.Fits name)
    (clear : ∀ e, t.entryAt? (l ++ [name]) = some e → e = .directory) {packageMarkers : Bool}
    (markers : packageMarkers = true → (p.child name).Fits packageMarkerName) :
    ∃ t', (enterDirectory packageMarkers p name).run.run t = (.ok (p.child name), t') := by
  obtain ⟨t₁, first⟩ : ∃ t₁, (ensureDirectory (p.child name)).run.run t = (.ok (), t₁) := by
    cases found : t.entryAt? (l ++ [name]) with
    | none => exact ⟨_, h.ensureDirectory_free fits found⟩
    | some e =>
        have done := h.ensureDirectory_taken fits found (linkFree [name] e found)
        rw [clear e found] at done
        exact ⟨_, done⟩
  rw [enterDirectory, run_bind_of_ok first]
  cases packageMarkers with
  | false => exact ⟨t₁, rfl⟩
  | true =>
      have linkFree' := linkFree.builds (h.ensureDirectory_settles usable linkFree).builds
      rw [first] at linkFree'
      have opens := h.opens_of_ensureDirectory linkFree fits clear first
      obtain ⟨t₂, marked⟩ : ∃ t₂, (ensureMarker (p.child name)).run.run t₁ = (.ok (), t₂) := by
        cases found : t₁.entryAt? (l ++ [name] ++ [packageMarkerName]) with
        | none => exact ⟨_, opens.ensureMarker_free (markers rfl) found⟩
        | some e =>
            have ends := (linkFree'.below [name]) [packageMarkerName] e found
            exact ⟨_, opens.ensureMarker_taken (markers rfl) found ends⟩
      exact ⟨t₂, run_bind_of_ok marked⟩

end FileTree.Opens

namespace FileTree.Folder

variable {t : FileTree} {p : Path} {l : Location} {name : String} {names : List String}

/-- Nothing is entered below a closed directory. -/
theorem enterDirectory_of_shuts (h : t.Shuts p l) (usable : Text.isUsableName name = true)
    (packageMarkers : Bool) :
    (enterDirectory packageMarkers p name).run.run t = (.error (p.child name).refusal, t) := by
  have nonzero : (p.child name).hasZero = false := by
    have above := (isPossible_of_locate h).nonzero
    rw [Path.hasZero_eq_false_iff] at above ⊢
    refine List.forall_mem_append.mpr ⟨above, ?_⟩
    simpa using Text.not_mem_of_isUsableName usable Text.isIdentifierPart_zero
  exact run_bind_of_error
    (h.ensureDirectory_child (Text.ne_empty_of_isUsableName usable) nonzero)

/-- **Entering a directory** of a usable name settles, also where a directory is closed. -/
theorem enterDirectory_settles (h : t.Folder p l) (usable : Text.isUsableName name = true)
    (linkFree : t.LinkFreeBelow l) (packageMarkers : Bool) :
    Settles l (enterDirectory packageMarkers p name) t := by
  rcases h with opens | shuts
  · exact opens.enterDirectory_settles usable linkFree packageMarkers
  · exact .of_again (enterDirectory_of_shuts shuts usable packageMarkers) fun _ growth =>
      enterDirectory_of_shuts (shuts.grows growth) usable packageMarkers

/-- A directory that was entered is there. -/
theorem child_of_enterDirectory (h : t.Folder p l) (usable : Text.isUsableName name = true)
    (linkFree : t.LinkFreeBelow l) {packageMarkers : Bool} {x : Path} {t' : FileTree}
    (done : (enterDirectory packageMarkers p name).run.run t = (.ok x, t')) :
    x = p.child name ∧ t'.Folder x (l ++ [name]) := by
  rcases h with opens | shuts
  · exact opens.child_of_enterDirectory usable linkFree done
  · cases done.symm.trans (enterDirectory_of_shuts shuts usable packageMarkers)

/-- **Entering the directories of a package** settles. -/
theorem enterAll_settles (h : t.Folder p l)
    (usable : ∀ name ∈ names, Text.isUsableName name = true) (linkFree : t.LinkFreeBelow l)
    (packageMarkers : Bool) : Settles l (names.foldlM (enterDirectory packageMarkers) p) t := by
  induction names generalizing p l t with
  | nil => exact .pure p
  | cons name rest ih =>
      obtain ⟨first, others⟩ := List.forall_mem_cons.mp usable
      have settles := h.enterDirectory_settles first linkFree packageMarkers
      rw [List.foldlM_cons]
      refine settles.bind ?_
      intro x t' done
      obtain ⟨-, folder⟩ := h.child_of_enterDirectory first linkFree done
      have linkFree' := linkFree.builds settles.builds
      rw [done] at linkFree'
      exact (ih folder others (linkFree'.below [name])).above

/-- Where the directories of a package were entered, they lead to one further down. -/
theorem folder_of_enterAll (h : t.Folder p l)
    (usable : ∀ name ∈ names, Text.isUsableName name = true) (linkFree : t.LinkFreeBelow l)
    {packageMarkers : Bool} {x : Path} {t' : FileTree}
    (done : (names.foldlM (enterDirectory packageMarkers) p).run.run t = (.ok x, t')) :
    x = p.below names ∧ t'.Folder x (l ++ names) := by
  induction names generalizing p l t with
  | nil =>
      cases done
      simpa [Path.below] using h
  | cons name rest ih =>
      obtain ⟨usable_first, others⟩ := List.forall_mem_cons.mp usable
      rw [List.foldlM_cons] at done
      obtain ⟨y, t₁, first, later⟩ := exists_of_run_bind_ok done
      obtain ⟨rfl, folder⟩ := h.child_of_enterDirectory usable_first linkFree first
      have linkFree' :=
        linkFree.builds (h.enterDirectory_settles usable_first linkFree packageMarkers).builds
      rw [first] at linkFree'
      obtain ⟨rfl, folder'⟩ := ih folder others (linkFree'.below [name]) later
      simpa [Path.child, Path.below] using folder'

end FileTree.Folder

end ProcessStubs
