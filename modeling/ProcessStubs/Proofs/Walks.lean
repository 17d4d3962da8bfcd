import ProcessStubs.Proofs.Places

/-!
# The steps of a walk

A walk along names takes one step for each name or link, and the steps say where it ends. What is
shown of walks is shown of their steps, one after the other.

## Main definitions

* `FileTree.Walks`: the steps of a walk and where it ends.

## Main results

* `FileTree.walks_iff`: the steps are those of `FileTree.walk`.
* `FileTree.Walks.append`: a walk goes on from where its first names lead.
* `FileTree.Walks.dropLast`: a walk to a place passes a directory before its last name.
-/

namespace ProcessStubs

namespace FileTree

/-- **The steps of a walk** along names, and where it ends. -/
inductive Walks (t : FileTree) (aim : Aim) :
    Nat → Location → List String → Except FileProblem Place → Prop
  /-- There are no names left. -/
  | done {links here e} : t.entryAt? here = some e → Walks t aim links here [] (.ok (.taken here e))
  | gone {links here} : t.entryAt? here = none → Walks t aim links here [] (.error .noEntry)
  /-- No file is written where a slash follows. -/
  | slash {links here} : aim = .file → Walks t aim links here [""] (.error .isDirectory)
  /-- Names lead on from directories alone. -/
  | lost {links here name rest} : ¬ (name = "" ∧ rest = [] ∧ aim = .file) →
      t.entryAt? here = none → Walks t aim links here (name :: rest) (.error .noEntry)
  | blocked {links here name rest e} : ¬ (name = "" ∧ rest = [] ∧ aim = .file) →
      t.entryAt? here = some e → e.isDirectory = false →
      Walks t aim links here (name :: rest) (.error .notDirectory)
  /-- No name leads on from a closed directory. -/
  | denied {links here name rest} : t.entryAt? here = some .closed → name ≠ "" →
      Walks t aim links here (name :: rest) (.error .denied)
  | stay {links here rest result} : ¬ (rest = [] ∧ aim = .file) →
      t.entryAt? here = some .closed → Walks t aim links here rest result →
      Walks t aim links here ("" :: rest) result
  /-- Empty names and dots are passed over, and two dots lead up. -/
  | skip {links here name rest result} : ¬ (name = "" ∧ rest = [] ∧ aim = .file) →
      t.entryAt? here = some .directory → (name = "" ∨ name = ".") →
      Walks t aim links here rest result → Walks t aim links here (name :: rest) result
  | up {links here rest result} : t.entryAt? here = some .directory →
      Walks t aim links here.dropLast rest result → Walks t aim links here (".." :: rest) result
  | long {links here name rest} : t.entryAt? here = some .directory → IsEntryName name →
      maxNameBytes < name.utf8ByteSize →
      Walks t aim links here (name :: rest) (.error .nameTooLong)
  /-- There is nothing of the name. -/
  | free {links here name} : t.entryAt? here = some .directory → IsShortName name →
      t.entryAt? (here ++ [name]) = none →
      Walks t aim links here [name] (.ok (.free (here ++ [name])))
  | noFile {links here name} : t.entryAt? here = some .directory → IsShortName name →
      t.entryAt? (here ++ [name]) = none → aim = .file →
      Walks t aim links here [name, ""] (.error .isDirectory)
  | missing {links here name rest} : t.entryAt? here = some .directory → IsShortName name →
      t.entryAt? (here ++ [name]) = none → rest ≠ [] → ¬ (rest = [""] ∧ aim = .file) →
      Walks t aim links here (name :: rest) (.error .noEntry)
  /-- There is a link of the name. -/
  | itself {links here name target} : t.entryAt? here = some .directory → IsShortName name →
      t.entryAt? (here ++ [name]) = some (.link target) → aim = .itself →
      Walks t aim links here [name] (.ok (.taken (here ++ [name]) (.link target)))
  | loop {here name rest target} : t.entryAt? here = some .directory → IsShortName name →
      t.entryAt? (here ++ [name]) = some (.link target) → ¬ (rest = [] ∧ aim = .itself) →
      Walks t aim 0 here (name :: rest) (.error .linkLoop)
  | follow {links here name rest target result} : t.entryAt? here = some .directory →
      IsShortName name → t.entryAt? (here ++ [name]) = some (.link target) →
      ¬ (rest = [] ∧ aim = .itself) →
      Walks t aim links (linkStart here target) (target.names ++ rest) result →
      Walks t aim (links + 1) here (name :: rest) result
  /-- There is something else of the name. -/
  | enter {links here name rest e result} : t.entryAt? here = some .directory →
      IsShortName name → t.entryAt? (here ++ [name]) = some e → IsEnd e →
      Walks t aim links (here ++ [name]) rest result → Walks t aim links here (name :: rest) result

variable {t : FileTree} {aim : Aim} {links : Nat} {here l : Location}
  {names rest : List String} {result : Except FileProblem Place}

/-- A walk takes the steps. -/
theorem walks_walk (t : FileTree) (aim : Aim) (links : Nat) (here : Location)
    (names : List String) : t.Walks aim links here names (t.walk aim links here names) := by
  fun_induction FileTree.walk t aim links here names with
  | case1 links here e found => exact .done found
  | case2 links here none => exact .gone none
  | case3 links here name rest slash =>
      obtain ⟨rfl, rfl, file⟩ := slash
      exact .slash file
  | case4 links here name rest on none => exact .lost on none
  | case5 links here rest closed on ih => exact .stay (by simpa using on) closed ih
  | case6 links here name rest _ closed named => exact .denied closed named
  | case7 links here name rest on directory skipped ih => exact .skip on directory skipped ih
  | case8 links here rest directory _ _ ih => exact .up directory ih
  | case9 links here name rest _ directory kept down long =>
      exact .long directory ⟨not_or.mp kept, down⟩ long
  | case10 links here name directory kept down short none _ =>
      exact .free directory ⟨⟨not_or.mp kept, down⟩, Nat.not_lt.mp short⟩ none
  | case11 links here name rest _ directory kept down short none _ slash =>
      obtain ⟨rfl, file⟩ := slash
      exact .noFile directory ⟨⟨not_or.mp kept, down⟩, Nat.not_lt.mp short⟩ none file
  | case12 links here name rest _ directory kept down short none more on =>
      exact .missing directory ⟨⟨not_or.mp kept, down⟩, Nat.not_lt.mp short⟩ none more on
  | case13 links here name rest _ directory kept down short target found last =>
      obtain ⟨rfl, itself⟩ := last
      exact .itself directory ⟨⟨not_or.mp kept, down⟩, Nat.not_lt.mp short⟩ found itself
  | case14 here name rest _ directory kept down short target found on =>
      exact .loop directory ⟨⟨not_or.mp kept, down⟩, Nat.not_lt.mp short⟩ found on
  | case15 here name rest _ directory kept down short target found on links start ih =>
      refine .follow directory ⟨⟨not_or.mp kept, down⟩, Nat.not_lt.mp short⟩ found on ?_
      have same : start = linkStart here target := by
        rw [linkStart]
        exact dite_eq_ite
      exact same ▸ ih
  | case16 links here name rest _ directory kept down short e ends found ih =>
      exact .enter directory ⟨⟨not_or.mp kept, down⟩, Nat.not_lt.mp short⟩ found ends ih
  | case17 links here name rest on e closed directory found =>
      exact .blocked on found (FileEntry.isDirectory_eq_false_iff.mpr ⟨directory, closed⟩)

/-- The steps are those of the walk. -/
theorem Walks.walk_eq (h : t.Walks aim links here names result) :
    t.walk aim links here names = result := by
  induction h with
  | done found => rw [walk, found]
  | gone none => rw [walk, none]
  | slash file => rw [walk, if_pos ⟨rfl, rfl, file⟩]
  | lost on none => rw [walk, if_neg on, none]
  | @blocked _ _ _ _ e on found other =>
      obtain ⟨directory, closed⟩ := FileEntry.isDirectory_eq_false_iff.mp other
      rw [walk, if_neg on, found]
      split <;> simp_all
  | denied closed named =>
      rw [walk, if_neg fun slash => named slash.1, closed]
      exact if_neg named
  | stay on closed _ ih =>
      rw [walk, if_neg fun slash => on slash.2, closed]
      exact (if_pos rfl).trans ih
  | skip on directory skipped _ ih =>
      rw [walk, if_neg on]
      simpa [directory, skipped] using ih
  | up directory _ ih =>
      rw [walk]
      simpa [directory] using ih
  | long directory entry long =>
      obtain ⟨⟨nonempty, undotted⟩, down⟩ := entry
      rw [walk]
      simp [directory, nonempty, undotted, down, long]
  | free directory named none =>
      rw [walk_cons_of_isShortName named directory]
      simp [none]
  | noFile directory named none file =>
      rw [walk_cons_of_isShortName named directory]
      simp [none, file]
  | missing directory named none more on =>
      rw [walk_cons_of_isShortName named directory]
      simp only [none, more, on, if_false]
  | itself directory named found itself =>
      rw [walk_cons_of_isShortName named directory]
      simp [found, itself]
  | loop directory named found on =>
      rw [walk_cons_of_isShortName named directory]
      simp only [found, on, if_false]
  | follow directory named found on _ ih =>
      rw [walk_cons_of_isShortName named directory]
      simp only [found, on, if_false, ih]
  | enter directory named found ends _ ih => rw [walk_end named directory found ends, ih]

/-- **The steps of a walk** lead where the walk does. -/
theorem walks_iff : t.Walks aim links here names result ↔ t.walk aim links here names = result :=
  ⟨Walks.walk_eq, fun h => h ▸ walks_walk t aim links here names⟩

namespace Walks

/-- A walk along names meets no mistake: a mistake is made with a path as a whole. -/
theorem ne_zeroCharacter (h : t.Walks aim links here names result) :
    result ≠ .error .zeroCharacter := by
  induction h with
  | stay _ _ _ ih => exact ih
  | skip _ _ _ _ ih => exact ih
  | up _ _ ih => exact ih
  | follow _ _ _ _ _ ih => exact ih
  | enter _ _ _ _ _ ih => exact ih
  | _ => exact nofun

/-- **A walk goes on** from where its first names lead. -/
theorem append (h : t.Walks .target links here names (.ok (.taken l e))) (more : rest ≠ []) :
    ∃ links', ∀ aim result, t.Walks aim links' l rest result →
      t.Walks aim links here (names ++ rest) result := by
  generalize hr : Except.ok (Place.taken l e) = r at h
  induction h with
  | done found =>
      cases hr
      exact ⟨_, fun _ _ on => on⟩
  | stay _ closed _ ih =>
      obtain ⟨links', on⟩ := ih hr
      exact ⟨links', fun aim result later => .stay (by simp [more]) closed (on _ _ later)⟩
  | skip _ directory skipped _ ih =>
      obtain ⟨links', on⟩ := ih hr
      exact ⟨links', fun aim result later =>
        .skip (by simp [more]) directory skipped (on _ _ later)⟩
  | up directory _ ih =>
      obtain ⟨links', on⟩ := ih hr
      exact ⟨links', fun aim result later => .up directory (on _ _ later)⟩
  | follow directory named found _ _ ih =>
      obtain ⟨links', on⟩ := ih hr
      refine ⟨links', fun aim result later => .follow directory named found (by simp [more]) ?_⟩
      exact List.append_assoc _ _ _ ▸ on aim result later
  | enter directory named found ends _ ih =>
      obtain ⟨links', on⟩ := ih hr
      exact ⟨links', fun aim result later => .enter directory named found ends (on _ _ later)⟩
  | itself _ _ _ itself => cases itself
  | _ => cases hr

/-- A walk that ends at a place passes a directory before its last name. This one is closed only if
no name follows but a slash. -/
theorem dropLast {last : String} {place : Place}
    (h : t.Walks aim links here (names ++ [last]) (.ok place)) :
    ∃ l' e, t.Walks .target links here names (.ok (.taken l' e)) ∧ e.isDirectory = true := by
  generalize hr : Except.ok place = r at h
  generalize hn : names ++ [last] = all at h
  induction h generalizing names with
  | done => simp at hn
  | stay on closed _ ih =>
      rcases List.append_eq_cons_iff.mp hn with ⟨rfl, hn⟩ | ⟨names, rfl, rfl⟩
      · exact ⟨_, _, .done closed, rfl⟩
      · obtain ⟨l', e, before, folder⟩ := ih hr rfl
        exact ⟨l', e, .stay (by simp) closed before, folder⟩
  | skip on directory skipped _ ih =>
      rcases List.append_eq_cons_iff.mp hn with ⟨rfl, hn⟩ | ⟨names, rfl, rfl⟩
      · exact ⟨_, _, .done directory, rfl⟩
      · obtain ⟨l', e, before, folder⟩ := ih hr rfl
        exact ⟨l', e, .skip (by simp) directory skipped before, folder⟩
  | up directory _ ih =>
      rcases List.append_eq_cons_iff.mp hn with ⟨rfl, hn⟩ | ⟨names, rfl, rfl⟩
      · exact ⟨_, _, .done directory, rfl⟩
      · obtain ⟨l', e, before, folder⟩ := ih hr rfl
        exact ⟨l', e, .up directory before, folder⟩
  | follow directory named found on _ ih =>
      rcases List.append_eq_cons_iff.mp hn with ⟨rfl, hn⟩ | ⟨names, rfl, rfl⟩
      · exact ⟨_, _, .done directory, rfl⟩
      · obtain ⟨l', e, before, folder⟩ := ih hr (List.append_assoc _ _ _)
        exact ⟨l', e, .follow directory named found (by simp) before, folder⟩
  | enter directory named found ends _ ih =>
      rcases List.append_eq_cons_iff.mp hn with ⟨rfl, hn⟩ | ⟨names, rfl, rfl⟩
      · exact ⟨_, _, .done directory, rfl⟩
      · obtain ⟨l', e, before, folder⟩ := ih hr rfl
        exact ⟨l', e, .enter directory named found ends before, folder⟩
  | free directory named | itself directory named =>
      -- The last name is the only one that is left.
      rcases List.append_eq_cons_iff.mp hn with ⟨rfl, hn⟩ | ⟨names, rfl, hn⟩
      · exact ⟨_, _, .done directory, rfl⟩
      · simp at hn
  | _ => cases hr

/-- **A walk that ends at a place** leads there whatever is looked for, unless this is a link
itself. -/
theorem to_target {place : Place} (h : t.Walks aim links here names (.ok place))
    (ends : ∀ l target, place ≠ .taken l (.link target)) :
    t.Walks .target links here names (.ok place) := by
  generalize hr : Except.ok place = r at h
  induction h with
  | done found => exact .done found
  | stay _ closed _ ih => exact .stay (by simp) closed (ih hr)
  | skip _ directory skipped _ ih => exact .skip (by simp) directory skipped (ih hr)
  | up directory _ ih => exact .up directory (ih hr)
  | free directory named none => exact .free directory named none
  | follow directory named found _ _ ih => exact .follow directory named found (by simp) (ih hr)
  | enter directory named found ends _ ih => exact .enter directory named found ends (ih hr)
  | itself =>
      cases hr
      exact absurd rfl (ends _ _)
  | _ => cases hr

/-- Where a walk leads to something, there is something itself. -/
theorem itself_of_target (h : t.Walks .target links here names (.ok (.taken l e))) :
    ∃ l' e', t.Walks .itself links here names (.ok (.taken l' e')) := by
  generalize hr : Except.ok (Place.taken l e) = r at h
  induction h with
  | done found => exact ⟨_, _, .done found⟩
  | stay _ closed _ ih =>
      obtain ⟨l', e', walked⟩ := ih hr
      exact ⟨l', e', .stay (by simp) closed walked⟩
  | skip _ directory skipped _ ih =>
      obtain ⟨l', e', walked⟩ := ih hr
      exact ⟨l', e', .skip (by simp) directory skipped walked⟩
  | up directory _ ih =>
      obtain ⟨l', e', walked⟩ := ih hr
      exact ⟨l', e', .up directory walked⟩
  | @follow _ _ _ rest _ _ directory named found _ _ ih =>
      rcases List.eq_nil_or_concat rest with rfl | ⟨_, _, rfl⟩
      · exact ⟨_, _, .itself directory named found rfl⟩
      · obtain ⟨l', e', walked⟩ := ih hr
        exact ⟨l', e', .follow directory named found (by simp) walked⟩
  | enter directory named found ends _ ih =>
      obtain ⟨l', e', walked⟩ := ih hr
      exact ⟨l', e', .enter directory named found ends walked⟩
  | itself _ _ _ itself => cases itself
  | _ => cases hr

/-- A free name is one in a directory. -/
theorem exists_of_free (h : t.Walks aim links here names (.ok (.free l))) :
    ∃ l' name, l = l' ++ [name] ∧ IsShortName name ∧ t.entryAt? l' = some .directory ∧
      t.entryAt? l = none := by
  generalize hr : Except.ok (Place.free l) = r at h
  induction h with
  | stay _ _ _ ih => exact ih hr
  | skip _ _ _ _ ih => exact ih hr
  | up _ _ ih => exact ih hr
  | follow _ _ _ _ _ ih => exact ih hr
  | enter _ _ _ _ _ ih => exact ih hr
  | free directory named none =>
      cases hr
      exact ⟨_, _, rfl, named, directory, none⟩
  | _ => cases hr

/-- What a walk leads to is there. -/
theorem entryAt?_of_taken {e : FileEntry} (h : t.Walks aim links here names (.ok (.taken l e))) :
    t.entryAt? l = some e := by
  generalize hr : Except.ok (Place.taken l e) = r at h
  induction h with
  | done found =>
      cases hr
      exact found
  | stay _ _ _ ih => exact ih hr
  | skip _ _ _ _ ih => exact ih hr
  | up _ _ ih => exact ih hr
  | follow _ _ _ _ _ ih => exact ih hr
  | enter _ _ _ _ _ ih => exact ih hr
  | itself _ _ found _ =>
      cases hr
      exact found
  | _ => cases hr

end Walks

end FileTree

end ProcessStubs
