import Mathlib.Tactic.SplitIfs
import ProcessStubs.FileTree.RealPath
import ProcessStubs.Proofs.KeyedList

/-!
# Real paths are where paths lead

A path that leads to an entry has a real path, and that is the location of the entry. Walking along
a path takes the names of a link before what follows it and counts the links; finding the real path
resolves one link inside of another and remembers those it is in. Both follow the same relation: the
way along names, with the number of links on it.

A link that is met again while it is resolved would be on its own way, and the way would be longer
than itself. So no way leads through such a link.

## Main definitions

* `FileTree.Proper`: what holds of the trees that there are.
* `FileTree.Leads`: the way along names, and the number of links on it.

## Main results

* `FileTree.exists_leads_of_walk`: a walk takes the way.
* `FileTree.Leads.resolveNames_eq`: resolving names takes the way.
* `FileTree.realPath_of_locate`: a path that leads to an entry has the real path of that entry.
-/

namespace ProcessStubs

/-- A name that is neither empty nor a dot. -/
def IsNormalName (name : String) : Prop := name ≠ "" ∧ name ≠ "."

instance (name : String) : Decidable (IsNormalName name) := inferInstanceAs (Decidable (_ ∧ _))

/-- A path as it is read: no name is empty or a dot. -/
def Path.IsNormal (p : Path) : Prop := ∀ name ∈ p.parts, IsNormalName name

instance (p : Path) : Decidable p.IsNormal := inferInstanceAs (Decidable (∀ name ∈ p.parts, _))

/-- The root has only normal names. -/
theorem Path.isNormal_root : (Path.mk .root []).IsNormal := by simp [IsNormal]

/-- Paths are read without empty names and dots. -/
theorem Path.isNormal_ofString (s : String) : (Path.ofString s).IsNormal := by
  intro name hname
  have kept := (List.mem_filter.mp hname).2
  simpa [IsNormalName] using kept

/-- A name that something in a directory can have. -/
def IsEntryName (name : String) : Prop := IsNormalName name ∧ name ≠ ".."

instance (name : String) : Decidable (IsEntryName name) := inferInstanceAs (Decidable (_ ∧ _))

namespace FileTree

/-- **The trees that there are.** Whatever there is has a name of its own, links are written as
paths are, and the working directory is reached along directories. -/
structure Proper (t : FileTree) : Prop where
  named : ∀ x ∈ t.entries, ∀ name ∈ x.1, IsEntryName name
  targets : ∀ x ∈ t.entries, ∀ target, x.2 = .link target → target.path.IsNormal
  working_named : ∀ name ∈ t.workingDirectory, IsEntryName name
  working : ∀ l, l <+: t.workingDirectory → t.entryAt? l = some .directory

/-- A tree whose working directory is the root is one that there is if its entries and links have
names. -/
theorem proper_of_root {entries : List (Location × FileEntry)}
    (named : ∀ x ∈ entries, ∀ name ∈ x.1, IsEntryName name)
    (targets : ∀ x ∈ entries, ∀ target, x.2 = .link target → target.path.IsNormal) :
    Proper ⟨[], entries⟩ where
  named := named
  targets := targets
  working_named := nofun
  working := by
    intro l hl
    rw [List.prefix_nil.mp hl]
    rfl

/-- Where the path of a link starts that is in the directory `here`. -/
def linkStart (here : Location) (target : LinkTarget) : Location :=
  if target.path.isAbsolute then [] else here

/-- An entry that is no link. -/
def IsEnd (e : FileEntry) : Prop := ∀ target, e ≠ .link target

/-- A directory, closed or not, is no link. -/
theorem isEnd_of_isDirectory {e : FileEntry} (h : e.isDirectory = true) : IsEnd e := by
  rintro target rfl
  cases h

/-- **The way along names** from a location to another one, and the number of links on it. -/
inductive Leads (t : FileTree) : Location → List String → Location → Nat → Prop
  | done {here : Location} : Leads t here [] here 0
  | up {here l : Location} {rest : List String} {n : Nat} :
      Leads t here.dropLast rest l n → Leads t here (".." :: rest) l n
  | entry {here l : Location} {name : String} {rest : List String} {n : Nat} {e : FileEntry} :
      name ≠ ".." → t.entryAt? (here ++ [name]) = some e → IsEnd e →
      Leads t (here ++ [name]) rest l n → Leads t here (name :: rest) l n
  | link {here mid l : Location} {name : String} {rest : List String} {m n : Nat}
      {target : LinkTarget} :
      name ≠ ".." → t.entryAt? (here ++ [name]) = some (.link target) →
      Leads t (linkStart here target) target.path.parts mid m → Leads t mid rest l n →
      Leads t here (name :: rest) l (m + n + 1)

variable {t : FileTree}

/-- There is one way along names. -/
theorem Leads.unique {here l l' : Location} {names : List String} {n n' : Nat}
    (h : t.Leads here names l n) (h' : t.Leads here names l' n') : l = l' ∧ n = n' := by
  induction h generalizing l' n' with
  | done =>
      cases h'
      exact ⟨rfl, rfl⟩
  | up _ ih =>
      cases h' with
      | up h' => exact ih h'
      | entry named => exact absurd rfl named
      | link named => exact absurd rfl named
  | entry named found ends _ ih =>
      cases h' with
      | up => exact absurd rfl named
      | entry _ _ _ h' => exact ih h'
      | link _ found' =>
          cases found.symm.trans found'
          exact absurd rfl (ends _)
  | link named found _ _ inner outer =>
      cases h' with
      | up => exact absurd rfl named
      | entry _ found' ends =>
          cases found.symm.trans found'
          exact absurd rfl (ends _)
      | link _ found' first second =>
          cases found.symm.trans found'
          obtain ⟨rfl, rfl⟩ := inner first
          obtain ⟨rfl, rfl⟩ := outer second
          exact ⟨rfl, rfl⟩

/-! ### Walks take the way -/

/-- A walk to an entry passes over empty names and dots. -/
theorem walk_of_skip {links : Nat} {here l : Location} {name : String} {rest : List String}
    {e : FileEntry} (skipped : name = "" ∨ name = ".")
    (h : t.walk .target links here (name :: rest) = .ok (.taken l e)) :
    t.walk .target links here rest = .ok (.taken l e) := by
  rw [walk] at h
  simp only [reduceCtorEq, and_false, if_false, skipped, if_true] at h
  split at h
  · cases h
  · split at h
    · exact h
    · cases h
  · exact h
  · cases h

/-- The first step of a walk to an entry: up, to an entry that is no link, or along a link. -/
theorem walk_step {links : Nat} {here l : Location} {name : String} {rest : List String}
    {e : FileEntry} (normal : IsNormalName name)
    (h : t.walk .target links here (name :: rest) = .ok (.taken l e)) :
    (name = ".." ∧ t.walk .target links here.dropLast rest = .ok (.taken l e)) ∨
    (name ≠ ".." ∧ ∃ e', t.entryAt? (here ++ [name]) = some e' ∧ IsEnd e' ∧
      t.walk .target links (here ++ [name]) rest = .ok (.taken l e)) ∨
    (name ≠ ".." ∧ ∃ target links', t.entryAt? (here ++ [name]) = some (.link target) ∧
      links = links' + 1 ∧
      t.walk .target links' (linkStart here target) (target.names ++ rest) =
        .ok (.taken l e)) := by
  rw [walk] at h
  simp only [reduceCtorEq, and_false, if_false, normal.1, normal.2, or_self] at h
  split at h
  · cases h
  · cases h
  on_goal 2 => cases h
  split at h
  · next up => exact .inl ⟨up, h⟩
  next up =>
  split at h
  · cases h
  split at h
  · split at h <;> cases h
  · next target found =>
      cases links with
      | zero => cases h
      | succ links' => exact .inr (.inr ⟨up, target, links', found, rfl, h⟩)
  · next e' ends found =>
      exact .inr (.inl ⟨up, e', found, ends, h⟩)

/-- What is at a location is one of the entries, or the root. -/
theorem eq_or_mem_of_entryAt? {l : Location} {e : FileEntry} (h : t.entryAt? l = some e) :
    l = [] ∧ e = .directory ∨ (l, e) ∈ t.entries := by
  rw [entryAt?] at h
  split at h
  · next root =>
      cases h
      exact .inl ⟨root, rfl⟩
  · exact .inr (Assoc.mem_of_get? h)

/-- A link is one of the entries. -/
theorem mem_of_entryAt?_link {l : Location} {target : LinkTarget}
    (h : t.entryAt? l = some (.link target)) : (l, .link target) ∈ t.entries :=
  (eq_or_mem_of_entryAt? h).resolve_left (by simp)

/-- The path of a link is written as paths are. -/
theorem Proper.isNormal_of_entryAt? (proper : t.Proper) {l : Location} {target : LinkTarget}
    (found : t.entryAt? l = some (.link target)) : target.path.IsNormal :=
  proper.targets _ (mem_of_entryAt?_link found) target rfl

/-- What the names of a link end in is passed over. -/
theorem exists_names_eq (target : LinkTarget) :
    ∃ ending, target.names = target.path.parts ++ ending ∧
      ∀ name ∈ ending, name = "" ∨ name = "." := by
  obtain ⟨path, ending⟩ := target
  cases ending <;> exact ⟨_, rfl, by simp⟩

/-- A walk to an entry passes over all empty names and dots before what follows. -/
theorem walk_of_skips {links : Nat} {here l : Location} {skipped rest : List String}
    {e : FileEntry} (h : ∀ name ∈ skipped, name = "" ∨ name = ".")
    (walked : t.walk .target links here (skipped ++ rest) = .ok (.taken l e)) :
    t.walk .target links here rest = .ok (.taken l e) := by
  induction skipped with
  | nil => exact walked
  | cons name skipped ih =>
      obtain ⟨hname, hskipped⟩ := List.forall_mem_cons.mp h
      exact ih hskipped (walk_of_skip hname walked)

/-- **A walk takes the way**: where a walk along names and further ones goes to an entry, there is a
way along the first names, and the walk goes on from there. -/
theorem exists_leads_of_walk (proper : t.Proper) {links : Nat} {here l : Location}
    {names rest : List String} {e : FileEntry} (normal : ∀ name ∈ names, IsNormalName name)
    (h : t.walk .target links here (names ++ rest) = .ok (.taken l e)) :
    ∃ mid n, t.Leads here names mid n ∧
      t.walk .target (links - n) mid rest = .ok (.taken l e) := by
  -- A link leaves fewer links for what follows, and every other step fewer names.
  induction links using Nat.strongRecOn generalizing here names rest with
  | ind links fewer =>
      induction names generalizing here with
      | nil => exact ⟨here, 0, .done, h⟩
      | cons name names ih =>
          obtain ⟨hname, hnames⟩ := List.forall_mem_cons.mp normal
          rcases walk_step hname h with ⟨rfl, later⟩ | ⟨named, e', found, ends, later⟩ |
            ⟨named, target, links', found, rfl, later⟩
          · obtain ⟨mid, n, leads, stop⟩ := ih hnames later
            exact ⟨mid, n, .up leads, stop⟩
          · obtain ⟨mid, n, leads, stop⟩ := ih hnames later
            exact ⟨mid, n, .entry named found ends leads, stop⟩
          · obtain ⟨ending, hending, skipped⟩ := exists_names_eq target
            rw [hending, List.append_assoc] at later
            obtain ⟨mid, m, first, between⟩ :=
              fewer links' (by omega) (proper.isNormal_of_entryAt? found) later
            have between := walk_of_skips skipped between
            obtain ⟨mid', n, second, stop⟩ := fewer (links' - m) (by omega) hnames between
            refine ⟨mid', m + n + 1, .link named found first second, ?_⟩
            rwa [show links' + 1 - (m + n + 1) = links' - m - n by omega]

/-- A walk to an entry takes a way there. -/
theorem exists_leads_of_walk_taken (proper : t.Proper) {links : Nat} {here l : Location}
    {names : List String} {e : FileEntry} (normal : ∀ name ∈ names, IsNormalName name)
    (h : t.walk .target links here names = .ok (.taken l e)) : ∃ n, t.Leads here names l n := by
  obtain ⟨mid, n, leads, stop⟩ :=
    exists_leads_of_walk proper normal ((List.append_nil names).symm ▸ h)
  rw [walk] at stop
  split at stop
  · cases stop
    exact ⟨n, leads⟩
  · cases stop

/-! ### Real paths take the way -/

/-- A location without a link on it, each of whose names is one of an entry. -/
structure Straight (t : FileTree) (l : Location) : Prop where
  named : ∀ name ∈ l, IsEntryName name
  ends : ∀ m, m <+: l → ∀ e, t.entryAt? m = some e → IsEnd e

/-- There is no link at the root. -/
theorem straight_root (t : FileTree) : t.Straight [] where
  named := nofun
  ends := by
    rintro m hm e he
    rw [List.prefix_nil.mp hm] at he
    cases he
    exact nofun

/-- The location above one without links has none either. -/
theorem Straight.dropLast {l : Location} (h : t.Straight l) : t.Straight l.dropLast where
  named name hname := h.named name (List.dropLast_subset l hname)
  ends m hm := h.ends m (hm.trans (List.dropLast_prefix l))

/-- An entry that is no link, in a location without links, is at one without links. -/
theorem Straight.append (proper : t.Proper) {l : Location} (h : t.Straight l) {name : String}
    {e : FileEntry} (found : t.entryAt? (l ++ [name]) = some e) (ends : IsEnd e) :
    t.Straight (l ++ [name]) where
  named := by
    rcases eq_or_mem_of_entryAt? found with ⟨root, -⟩ | hmem
    · simp at root
    · exact proper.named _ hmem
  ends := by
    intro m hm e' he'
    rcases List.prefix_concat_iff.mp hm with rfl | hm
    · cases found.symm.trans he'
      exact ends
    · exact h.ends m hm e' he'

/-- Where the path of a link starts that is in a location without links, there is none. -/
theorem Straight.linkStart {here : Location} (h : t.Straight here) (target : LinkTarget) :
    t.Straight (linkStart here target) := by
  rw [FileTree.linkStart]
  split
  · exact t.straight_root
  · exact h

/-- Paths start where there are no links. -/
theorem Proper.straight_origin (proper : t.Proper) (p : Path) : t.Straight (t.origin p) := by
  rw [origin]
  split
  · exact t.straight_root
  · refine ⟨proper.working_named, ?_⟩
    intro m hm e he
    cases (proper.working m hm).symm.trans he
    exact nofun

/-- The way from a location without links leads to one without links. -/
theorem Leads.straight (proper : t.Proper) {here l : Location} {names : List String} {n : Nat}
    (h : t.Leads here names l n) (straight : t.Straight here) : t.Straight l := by
  induction h with
  | done => exact straight
  | up _ ih => exact ih straight.dropLast
  | entry _ found ends _ ih => exact ih (straight.append proper found ends)
  | link _ _ _ _ inner outer => exact outer (inner (straight.linkStart _))

/-- A walk that goes straight on meets no link, and so no loop of links. -/
theorem Straight.walk_ne_linkLoop {links : Nat} {here : Location} {names : List String}
    (h : t.Straight (here ++ names)) : t.walk .target links here names ≠ .error .linkLoop := by
  induction names generalizing here with
  | nil =>
      rw [walk]
      split <;> simp
  | cons name rest ih =>
      obtain ⟨⟨nonempty, undotted⟩, down⟩ := h.named name (by simp)
      rw [List.append_cons] at h
      have on : t.walk .target links (here ++ [name]) rest ≠ .error .linkLoop := ih h
      have ends := h.ends (here ++ [name]) (List.prefix_append _ _)
      rw [walk]
      simp only [nonempty, undotted, down, false_and, if_false, or_self]
      split
      · simp
      · simp
      on_goal 2 => simp
      split
      · simp
      split
      · split
        · simp
        · split <;> simp
      · next target found => exact absurd rfl (ends _ found target)
      · exact on

/-- A location without links, given as a path, meets no loop of links. -/
theorem Straight.locate_ne_linkLoop {l : Location} (h : t.Straight l) {f : FileFault}
    (located : t.locate .target ⟨.root, l⟩ = .error f) : f.problem ≠ .linkLoop := by
  rw [locate] at located
  split at located
  · cases located
    simp
  split at located
  · cases located
    simp
  split at located
  · cases located
  · next problem walked =>
      cases located
      rintro rfl
      exact Straight.walk_ne_linkLoop (show t.Straight ([] ++ l) from h) walked

/-- What it costs to resolve a link that is being resolved: no less than `n` links. -/
def Outlasts (t : FileTree) (active : List Location) (n : Nat) : Prop :=
  ∀ a ∈ active, ∀ target mid c, t.entryAt? a = some (.link target) →
    t.Leads (linkStart a.dropLast target) target.path.parts mid c → n ≤ c

namespace Outlasts

variable {active : List Location} {m n : Nat}

/-- A shorter rest of the way costs less. -/
theorem mono (h : t.Outlasts active n) (less : m ≤ n) : t.Outlasts active m :=
  fun a ha target mid c found leads => Nat.le_trans less (h a ha target mid c found leads)

variable {here mid : Location} {name : String} {target : LinkTarget}

/-- A link that costs less than the way that is left is not being resolved. -/
theorem not_mem (h : t.Outlasts active n)
    (found : t.entryAt? (here ++ [name]) = some (.link target))
    (leads : t.Leads (linkStart here target) target.path.parts mid m) (less : m < n) :
    here ++ [name] ∉ active := fun hmem =>
  Nat.not_le_of_lt less (h _ hmem target mid m found (by rwa [List.dropLast_concat]))

/-- A link is resolved at the cost of the way that its target leads. -/
theorem cons (h : t.Outlasts active m)
    (found : t.entryAt? (here ++ [name]) = some (.link target))
    (leads : t.Leads (linkStart here target) target.path.parts mid m) :
    t.Outlasts ((here ++ [name]) :: active) m := by
  intro a ha target' mid' c found' leads'
  rcases List.mem_cons.mp ha with rfl | ha
  · cases found.symm.trans found'
    rw [List.dropLast_concat] at leads'
    exact Nat.le_of_eq (leads.unique leads').2
  · exact h a ha target' mid' c found' leads'

end Outlasts

/-- **Resolving names takes the way.** The links that are being resolved have at least as many links
on their way as there are on this one, so none of these is met again. -/
theorem Leads.resolveNames_eq {depth : Nat} {active : List Location} {here l : Location}
    {names : List String} {n : Nat} (h : t.Leads here names l n)
    (outlasts : t.Outlasts active n) (distinct : active.Nodup)
    (known : active ⊆ Assoc.keys t.entries) (room : t.entries.length ≤ depth + active.length) :
    t.resolveNames depth active here names = .resolved l := by
  induction h generalizing depth active with
  | done => rw [resolveNames]
  | up _ ih =>
      rw [resolveNames, if_pos rfl]
      exact ih outlasts distinct known room
  | @entry here l name rest n e named found ends _ ih =>
      have on := ih outlasts distinct known room
      rw [resolveNames, if_neg named]
      cases e with
      | link target => exact absurd rfl (ends target)
      | _ => simpa only [found] using on
  | @link here mid l name rest m n target named found first second inner outer =>
      have fresh : here ++ [name] ∉ active := outlasts.not_mem found first (by omega)
      have key : here ++ [name] ∈ Assoc.keys t.entries :=
        Assoc.mem_keys.mpr ⟨_, mem_of_entryAt?_link found⟩
      have distinct' : ((here ++ [name]) :: active).Nodup :=
        List.nodup_cons.mpr ⟨fresh, distinct⟩
      have known' : (here ++ [name]) :: active ⊆ Assoc.keys t.entries :=
        List.cons_subset.mpr ⟨key, known⟩
      have fits := distinct'.length_le_of_subset known'
      rw [List.length_cons, Assoc.keys, List.length_map] at fits
      -- There are more links than those that are being resolved, so there is room for one more.
      obtain ⟨depth, rfl⟩ : ∃ d, depth = d + 1 := ⟨depth - 1, by omega⟩
      have room' : t.entries.length ≤ depth + ((here ++ [name]) :: active).length := by
        rw [List.length_cons]
        omega
      have resolved := inner ((outlasts.mono (by omega)).cons found first) distinct' known' room'
      have on := outer (outlasts.mono (by omega)) distinct known room
      rw [resolveNames, if_neg named]
      simp only [found, if_neg fresh]
      rw [linkStart] at resolved
      simp only [resolved, on]

/-- **A path that leads to an entry** has the real path of that entry. -/
theorem realPath_of_locate (proper : t.Proper) {p : Path} (normal : p.IsNormal) {l : Location}
    {e : FileEntry} (h : t.locate .target p = .ok (.taken l e)) :
    t.realPath p = .ok ⟨.root, l⟩ := by
  rw [locate] at h
  rw [realPath]
  split at h
  · cases h
  next possible =>
  split at h
  · cases h
  split at h
  · next place walked =>
      cases h
      obtain ⟨n, leads⟩ := exists_leads_of_walk_taken proper normal walked
      have resolved : t.resolveNames t.entries.length [] _ p.parts = .resolved l :=
        leads.resolveNames_eq (by simp [Outlasts]) List.nodup_nil (List.nil_subset _)
          (Nat.le_add_right _ _)
      have straight := leads.straight proper (proper.straight_origin p)
      rw [if_neg possible]
      simp only [resolved]
      split
      · next f located => rw [if_neg (straight.locate_ne_linkLoop located)]
      · rfl
  · cases h

end FileTree

end ProcessStubs
