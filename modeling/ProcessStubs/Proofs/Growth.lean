import ProcessStubs.FileTree.Change
import ProcessStubs.FileTree.ReadText
import ProcessStubs.Proofs.Walks

/-!
# Trees that grow

While modules are written, a tree only grows: what is there stays there and is of the same kind, and
a file that holds a text is at most written over with another text. A walk that found something, or
found its way blocked, does so again in a tree that has grown. Only a walk that ended at a free
name, or missed an entry, may go elsewhere later.

## Main definitions

* `FileEntry.Becomes`: what an entry can be later.
* `FileTree.Grows`: trees of which one can come after the other.
* `FileTree.Stays`: what the end of a walk tells about its end in a tree that has grown.
* `FileTree.Opens`, `FileTree.Shuts`: a path that leads to a directory, and one that leads to a
  closed directory.

## Main results

* `FileTree.Walks.stays`: walks stay where they are.
* `FileTree.Grows.locate_taken`: so do paths.
* `FileTree.Walks.put_of_free`: what is put at a free name is found there.
* `FileTree.Opens.locate_free`, `FileTree.Opens.locate_taken`, `FileTree.Opens.locate_long`: where a
  name below such a path leads.
* `FileTree.Shuts.locate_child`: no name leads on from a closed directory.
-/

namespace ProcessStubs

/-- Bytes that hold a text. -/
def HoldsText (bytes : ByteArray) : Prop := ∃ text, textOfBytes bytes = .ok text

/-- The bytes of a text hold one. -/
theorem holdsText_toUTF8 (text : String) : HoldsText text.toUTF8 := by
  rw [HoldsText, textOfBytes, Text.decode_toUTF8]
  exact ⟨_, rfl⟩

/-- **What an entry can be later**: the same, or a text in place of a text. -/
inductive FileEntry.Becomes : FileEntry → FileEntry → Prop
  | refl (e : FileEntry) : Becomes e e
  | text {old new : ByteArray} : HoldsText old → HoldsText new → Becomes (.file old) (.file new)

namespace FileEntry.Becomes

/-- What an entry can be later, it can be still later. -/
theorem trans {first second third : FileEntry} (h : first.Becomes second)
    (h' : second.Becomes third) : first.Becomes third := by
  cases h with
  | refl => exact h'
  | text old new =>
      cases h' with
      | refl => exact .text old new
      | text _ newer => exact .text old newer

/-- A directory stays a directory. -/
theorem directory_iff {e e' : FileEntry} (h : e.Becomes e') : e' = .directory ↔ e = .directory := by
  cases h with
  | refl => rfl
  | text => simp

/-- A closed directory stays closed. -/
theorem closed_iff {e e' : FileEntry} (h : e.Becomes e') : e' = .closed ↔ e = .closed := by
  cases h with
  | refl => rfl
  | text => simp

/-- What is a directory, closed or not, stays one, and nothing else becomes one. -/
theorem isDirectory_eq {e e' : FileEntry} (h : e.Becomes e') : e'.isDirectory = e.isDirectory := by
  cases h <;> rfl

/-- A link stays the same link. -/
theorem link_iff {e e' : FileEntry} (h : e.Becomes e') (target : LinkTarget) :
    e' = .link target ↔ e = .link target := by
  cases h with
  | refl => rfl
  | text => simp

/-- What is no link does not become one. -/
theorem isEnd {e e' : FileEntry} (h : e.Becomes e') (ends : FileTree.IsEnd e) :
    FileTree.IsEnd e' :=
  fun target link => ends target ((h.link_iff target).mp link)

end FileEntry.Becomes

/-- A name that fits below a path: neither it nor the path with it is too long. -/
structure Path.Fits (p : Path) (name : String) : Prop where
  named : IsShortName name
  possible : (p.child name).IsPossible

/-- The fault of a path that leads on from a closed directory: permission is denied, unless the path
is too long to be asked about. -/
def Path.refusal (p : Path) : FileFault :=
  ⟨if p.toString.utf8ByteSize > maxPathBytes then .nameTooLong else .denied, p⟩

/-- It is left open what such a path leads to. -/
theorem Path.leavesOpen_refusal (p : Path) : p.refusal.problem.leavesOpen = true := by
  rw [refusal]
  split <;> rfl

namespace FileTree

/-- **One tree can come after the other**: whatever is in the first one is in the second, as it was
or with one text in place of another. -/
structure Grows (t t' : FileTree) : Prop where
  working : t'.workingDirectory = t.workingDirectory
  entry : ∀ l e, t.entryAt? l = some e → ∃ e', t'.entryAt? l = some e' ∧ e.Becomes e'

variable {t t' t'' : FileTree} {aim : Aim} {links : Nat} {here l : Location} {name : String}
  {names : List String} {result : Except FileProblem Place} {p : Path}

namespace Grows

/-- A tree can stay as it is. -/
theorem refl (t : FileTree) : Grows t t where
  working := rfl
  entry _ e h := ⟨e, h, .refl e⟩

/-- What can come later can come still later. -/
theorem trans (h : Grows t t') (h' : Grows t' t'') : Grows t t'' where
  working := h'.working.trans h.working
  entry l e he := by
    obtain ⟨e', he', becomes⟩ := h.entry l e he
    obtain ⟨e'', he'', becomes'⟩ := h'.entry l e' he'
    exact ⟨e'', he'', becomes.trans becomes'⟩

/-- Directories stay. -/
theorem directory (h : Grows t t') (hl : t.entryAt? l = some .directory) :
    t'.entryAt? l = some .directory := by
  obtain ⟨e, he, becomes⟩ := h.entry l _ hl
  rw [he, becomes.directory_iff.mpr rfl]

/-- Closed directories stay closed. -/
theorem closed (h : Grows t t') (hl : t.entryAt? l = some .closed) :
    t'.entryAt? l = some .closed := by
  obtain ⟨e, he, becomes⟩ := h.entry l _ hl
  rw [he, becomes.closed_iff.mpr rfl]

/-- Paths start where they did. -/
theorem origin (h : Grows t t') (p : Path) : t'.origin p = t.origin p := by
  rw [FileTree.origin, FileTree.origin, h.working]

end Grows

/-- Putting something that the old entry can become lets a tree grow. -/
theorem grows_put (h : l ≠ []) {e : FileEntry}
    (becomes : ∀ old, t.entryAt? l = some old → old.Becomes e) : Grows t (t.put l e) where
  working := rfl
  entry m old hold := by
    by_cases hm : m = l
    · subst hm
      exact ⟨e, entryAt?_put_self t h e, becomes old hold⟩
    · exact ⟨old, (entryAt?_put_of_ne t hm e).trans hold, .refl old⟩

/-! ### Walks in trees that grow -/

/-- **What the end of a walk tells** about its end later: it ends at the same entry, or with the
same problem, unless it ended at a free name or missed an entry. -/
inductive Stays : Except FileProblem Place → Except FileProblem Place → Prop
  | taken {l : Location} {e e' : FileEntry} :
      e.Becomes e' → Stays (.ok (.taken l e)) (.ok (.taken l e'))
  | blocked (problem : FileProblem) : Stays (.error problem) (.error problem)
  | free {l : Location} {later : Except FileProblem Place} : Stays (.ok (.free l)) later
  | noEntry {later : Except FileProblem Place} : Stays (.error .noEntry) later

/-- **Walks stay** where they are, unless they look for a place to write a file. -/
theorem Walks.stays (h : Grows t t') (haim : aim ≠ .file)
    (walked : t.Walks aim links here names result) :
    Stays result (t'.walk aim links here names) := by
  induction walked with
  | done found =>
      obtain ⟨e', found', becomes⟩ := h.entry _ _ found
      rw [(Walks.done found').walk_eq]
      exact .taken becomes
  | gone | lost | missing => exact .noEntry
  | slash file | noFile _ _ _ file => exact absurd file haim
  | blocked on found other =>
      obtain ⟨e', found', becomes⟩ := h.entry _ _ found
      rw [(Walks.blocked on found' (becomes.isDirectory_eq.trans other)).walk_eq]
      exact .blocked _
  | denied closed named =>
      rw [(Walks.denied (h.closed closed) named).walk_eq]
      exact .blocked _
  | stay on closed _ ih => rwa [(Walks.stay on (h.closed closed) (walks_walk ..)).walk_eq]
  | skip on directory skipped _ ih =>
      rwa [(Walks.skip on (h.directory directory) skipped (walks_walk ..)).walk_eq]
  | up directory _ ih => rwa [(Walks.up (h.directory directory) (walks_walk ..)).walk_eq]
  | long directory entry long =>
      rw [(Walks.long (h.directory directory) entry long).walk_eq]
      exact .blocked _
  | free => exact .free
  | itself directory named found itself =>
      obtain ⟨e', found', becomes⟩ := h.entry _ _ found
      obtain rfl := (becomes.link_iff _).mpr rfl
      rw [(Walks.itself (h.directory directory) named found' itself).walk_eq]
      exact .taken becomes
  | loop directory named found on =>
      obtain ⟨e', found', becomes⟩ := h.entry _ _ found
      obtain rfl := (becomes.link_iff _).mpr rfl
      rw [(Walks.loop (h.directory directory) named found' on).walk_eq]
      exact .blocked _
  | follow directory named found on _ ih =>
      obtain ⟨e', found', becomes⟩ := h.entry _ _ found
      obtain rfl := (becomes.link_iff _).mpr rfl
      rwa [(Walks.follow (h.directory directory) named found' on (walks_walk ..)).walk_eq]
  | enter directory named found ends _ ih =>
      obtain ⟨e', found', becomes⟩ := h.entry _ _ found
      rwa [(Walks.enter (h.directory directory) named found' (becomes.isEnd ends)
        (walks_walk ..)).walk_eq]

/-- **What is put at a free name** is found there by the walk that found the name free. -/
theorem Walks.put_of_free (walked : t.Walks aim links here names (.ok (.free l))) {e : FileEntry}
    (ends : IsEnd e) : (t.put l e).Walks aim links here names (.ok (.taken l e)) := by
  obtain ⟨-, -, name, -, -, free⟩ := walked.exists_of_free
  have nonempty : l ≠ [] := by
    rintro rfl
    cases free
  -- All that the walk passes has an entry, and so is not where the new one is put.
  have other {m : Location} {e' : FileEntry} (found : t.entryAt? m = some e') :
      (t.put l e).entryAt? m = some e' := by
    rw [entryAt?_put_of_ne t ?_ e, found]
    rintro rfl
    cases free.symm.trans found
  generalize hr : Except.ok (Place.free l) = r at walked
  induction walked with
  | stay on closed _ ih => exact .stay on (other closed) (ih hr)
  | skip on directory skipped _ ih => exact .skip on (other directory) skipped (ih hr)
  | up directory _ ih => exact .up (other directory) (ih hr)
  | follow directory named found on _ ih =>
      exact .follow (other directory) named (other found) on (ih hr)
  | enter directory named found ends' _ ih =>
      exact .enter (other directory) named (other found) ends' (ih hr)
  | free directory named =>
      cases hr
      have there := entryAt?_put_self t nonempty e
      exact .enter (other directory) named there ends (.done there)
  | _ => cases hr

/-- There are no links in a tree. -/
def LinkFree (t : FileTree) : Prop := ∀ l e, t.entryAt? l = some e → IsEnd e

/-! ### Paths in trees that grow -/

/-- A path that leads somewhere can be walked. -/
theorem isPossible_of_locate {place : Place} (h : t.locate aim p = .ok place) : p.IsPossible := by
  rw [locate] at h
  split at h
  · cases h
  split at h
  · cases h
  · next nonzero short => exact ⟨by simpa using nonzero, Nat.not_lt.mp short⟩

/-- Where a path leads somewhere, its walk does. -/
theorem walks_of_locate {place : Place} (h : t.locate aim p = .ok place) :
    t.Walks aim maxLinks (t.origin p) p.parts (.ok place) := by
  rw [locate_of_walk (isPossible_of_locate h)] at h
  exact walks_iff.mpr (mapError_eq_ok_iff.mp h)

/-- A path that can be walked leads where its steps do. -/
theorem locate_of_walks (possible : p.IsPossible) {place : Place}
    (walked : t.Walks aim maxLinks (t.origin p) p.parts (.ok place)) :
    t.locate aim p = .ok place := by
  rw [locate_of_walk possible, walked.walk_eq]
  rfl

/-- **Paths stay** where there is something. -/
theorem Grows.locate_taken (h : Grows t t') (haim : aim ≠ .file) {e : FileEntry}
    (located : t.locate aim p = .ok (.taken l e)) :
    ∃ e', t'.locate aim p = .ok (.taken l e') ∧ e.Becomes e' := by
  have stays := (walks_of_locate located).stays h haim
  generalize hw : t'.walk aim maxLinks (t.origin p) p.parts = later at stays
  cases stays with
  | taken becomes =>
      refine ⟨_, locate_of_walks (isPossible_of_locate located) ?_, becomes⟩
      rw [h.origin]
      exact walks_iff.mpr hw

/-! ### Names below a directory -/

/-- **A path that leads to a directory.** -/
def Opens (t : FileTree) (p : Path) (l : Location) : Prop :=
  t.locate .target p = .ok (.taken l .directory)

namespace Opens

variable {e : FileEntry}

/-- A directory stays where it is. -/
theorem grows (h : t.Opens p l) (growth : Grows t t') : t'.Opens p l := by
  obtain ⟨e, located, becomes⟩ := growth.locate_taken (by simp) h
  obtain rfl := becomes.directory_iff.mpr rfl
  exact located

/-- There is a directory. -/
theorem directory (h : t.Opens p l) : t.entryAt? l = some .directory :=
  (walks_of_locate h).entryAt?_of_taken

/-- A step of a name below a directory is the last one of the path. -/
theorem locate_of_walks (h : t.Opens p l) (possible : (p.child name).IsPossible) {place : Place}
    (step : ∀ links, t.Walks aim links l [name] (.ok place)) :
    t.locate aim (p.child name) = .ok place := by
  obtain ⟨links, on⟩ := (walks_of_locate h).append (List.cons_ne_nil name [])
  exact FileTree.locate_of_walks possible (on aim _ (step links))

/-- **A free name** below a directory. -/
theorem locate_free (h : t.Opens p l) (aim : Aim) (fits : p.Fits name)
    (none : t.entryAt? (l ++ [name]) = none) :
    t.locate aim (p.child name) = .ok (.free (l ++ [name])) :=
  h.locate_of_walks fits.possible fun _ => .free h.directory fits.named none

/-- **A name of an entry** below a directory. -/
theorem locate_taken (h : t.Opens p l) (aim : Aim) (fits : p.Fits name)
    (found : t.entryAt? (l ++ [name]) = some e) (ends : IsEnd e) :
    t.locate aim (p.child name) = .ok (.taken (l ++ [name]) e) :=
  h.locate_of_walks fits.possible fun _ => .enter h.directory fits.named found ends (.done found)

/-- **A name that does not fit** below a directory. -/
theorem locate_long (h : t.Opens p l) (aim : Aim) (entry : IsEntryName name)
    (nonzero : (p.child name).hasZero = false) (long : ¬ p.Fits name) :
    t.locate aim (p.child name) = .error ⟨.nameTooLong, p.child name⟩ := by
  by_cases short : (p.child name).toString.utf8ByteSize ≤ maxPathBytes
  · have name_long : maxNameBytes < name.utf8ByteSize := by
      by_contra name_short
      exact long ⟨⟨entry, Nat.not_lt.mp name_short⟩, nonzero, short⟩
    obtain ⟨links, on⟩ := (walks_of_locate h).append (List.cons_ne_nil name [])
    have walked := on aim _ (.long h.directory entry name_long)
    rw [locate_of_walk ⟨nonzero, short⟩]
    exact congrArg (Except.mapError _) walked.walk_eq
  · rw [locate, if_neg (by simp [nonzero]), if_pos (Nat.not_le.mp short)]

/-- A directory below a directory. -/
theorem child (h : t.Opens p l) (fits : p.Fits name)
    (found : t.entryAt? (l ++ [name]) = some .directory) :
    t.Opens (p.child name) (l ++ [name]) :=
  h.locate_taken .target fits found nofun

/-- The root is a directory. -/
theorem root (t : FileTree) : t.Opens ⟨.root, []⟩ [] :=
  FileTree.locate_of_walks (by decide) (.done rfl)

/-- Something can be at a path that leads to a directory. -/
theorem hasZero_eq_false (h : t.Opens p l) : p.hasZero = false :=
  (isPossible_of_locate h).nonzero

end Opens

/-! ### Names below a closed directory -/

/-- **A path that leads to a closed directory.** -/
def Shuts (t : FileTree) (p : Path) (l : Location) : Prop :=
  t.locate .target p = .ok (.taken l .closed)

/-- A path that leads to a directory, closed or not. -/
def Folder (t : FileTree) (p : Path) (l : Location) : Prop := t.Opens p l ∨ t.Shuts p l

namespace Shuts

/-- A closed directory stays where it is. -/
theorem grows (h : t.Shuts p l) (growth : Grows t t') : t'.Shuts p l := by
  obtain ⟨e, located, becomes⟩ := growth.locate_taken (by simp) h
  obtain rfl := becomes.closed_iff.mpr rfl
  exact located

/-- **No name leads on** from a closed directory. -/
theorem locate_child (h : t.Shuts p l) (aim : Aim) (named : name ≠ "")
    (nonzero : (p.child name).hasZero = false) :
    t.locate aim (p.child name) = .error (p.child name).refusal := by
  by_cases short : (p.child name).toString.utf8ByteSize ≤ maxPathBytes
  · obtain ⟨links, on⟩ := (walks_of_locate h).append (List.cons_ne_nil name [])
    have closed := (walks_of_locate h).entryAt?_of_taken
    rw [locate_of_walk ⟨nonzero, short⟩, Path.refusal, if_neg (Nat.not_lt.mpr short)]
    exact congrArg (Except.mapError _) (on aim _ (.denied closed named)).walk_eq
  · rw [locate, if_neg (by simp [nonzero]), if_pos (Nat.not_le.mp short), Path.refusal,
      if_pos (Nat.not_le.mp short)]

end Shuts

namespace Folder

/-- A directory stays where it is. -/
theorem grows (h : t.Folder p l) (growth : Grows t t') : t'.Folder p l :=
  h.imp (·.grows growth) (·.grows growth)

/-- A path that leads to a directory can be walked. -/
theorem isPossible (h : t.Folder p l) : p.IsPossible :=
  h.elim isPossible_of_locate isPossible_of_locate

/-- A directory that is not closed can be entered. -/
theorem opens (h : t.Folder p l) (other : t.entryAt? l ≠ some .closed) : t.Opens p l :=
  h.resolve_right fun shuts => other (walks_of_locate shuts).entryAt?_of_taken

end Folder

/-- What a path leads to that is a directory, closed or not. -/
theorem folder_iff {e : FileEntry} (h : t.locate .target p = .ok (.taken l e)) :
    t.Folder p l ↔ e.isDirectory = true := by
  rw [Folder, Opens, Shuts, h, FileEntry.isDirectory_iff]
  simp

end FileTree

end ProcessStubs
