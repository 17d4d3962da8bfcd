import ProcessStubs.Proofs.Actions
import ProcessStubs.Proofs.Gains
import ProcessStubs.Proofs.ResolvedPaths

/-!
# What is written is read

Wherever writing a file succeeds, whether there was a file or not and whether links led to it or
not, the path leads to what was written afterwards. The tree stays a proper one, and paths that were
resolved stay so, since no link is made.

## Main definitions

* `FileTree.Written`: what is so once a file has been written.

## Main results

* `FileTree.Walks.put_file`: a walk that looks for a place to write leads to what is written there.
* `FileAction.written_of_writeFile`: writing a file does what it should.
* `FileTree.Written.read_eq`: what was written is read.
-/

namespace ProcessStubs

namespace FileTree

variable {t t' : FileTree} {aim : Aim} {links : Nat} {here l m : Location} {names : List String}
  {place : Place} {old content : ByteArray} {p q : Path}

/-! ### Walks to a file that is written -/

/-- **A file that is written over** is found by the walk that found the old one. -/
theorem Walks.put_of_taken (walked : t.Walks aim links here names (.ok (.taken l (.file old))))
    (content : ByteArray) :
    (t.put l (.file content)).Walks aim links here names (.ok (.taken l (.file content))) := by
  have there := walked.entryAt?_of_taken
  have nonempty : l ≠ [] := by
    rintro rfl
    cases there
  -- Directories and links are not where the file is, and so stay.
  have other {m : Location} {e : FileEntry} (found : t.entryAt? m = some e)
      (differs : e ≠ .file old) : (t.put l (.file content)).entryAt? m = some e := by
    rw [entryAt?_put_of_ne t ?_, found]
    rintro rfl
    exact differs (Option.some.inj (found.symm.trans there))
  -- What is no link is none later, be it the file itself or not.
  have passes {m : Location} {e : FileEntry} (found : t.entryAt? m = some e) (ends : IsEnd e) :
      ∃ e', (t.put l (.file content)).entryAt? m = some e' ∧ IsEnd e' := by
    by_cases same : m = l
    · exact ⟨.file content, same ▸ entryAt?_put_self t nonempty _, by simp [IsEnd]⟩
    · exact ⟨e, (entryAt?_put_of_ne t same _).trans found, ends⟩
  generalize hr : Except.ok (Place.taken l (.file old)) = r at walked
  induction walked with
  | done found =>
      cases hr
      exact .done (entryAt?_put_self t nonempty _)
  | stay on closed _ ih => exact .stay on (other closed (by simp)) (ih hr)
  | skip on directory skipped _ ih => exact .skip on (other directory (by simp)) skipped (ih hr)
  | up directory _ ih => exact .up (other directory (by simp)) (ih hr)
  | follow directory named found on _ ih =>
      exact .follow (other directory (by simp)) named (other found (by simp)) on (ih hr)
  | enter directory named found ends _ ih =>
      obtain ⟨e', found', ends'⟩ := passes found ends
      exact .enter (other directory (by simp)) named found' ends' (ih hr)
  | _ => cases hr

/-- A place where a file can be written: a free name, or another file. -/
inductive Place.TakesFile : Place → Location → Prop
  | free (l : Location) : TakesFile (.free l) l
  | file (l : Location) (old : ByteArray) : TakesFile (.taken l (.file old)) l

/-- **A walk that looks for a place to write** leads to what is written there. -/
theorem Walks.put_file (walked : t.Walks .file links here names (.ok place))
    (takes : Place.TakesFile place l) (content : ByteArray) :
    (t.put l (.file content)).Walks .target links here names (.ok (.taken l (.file content))) := by
  cases takes with
  | free => exact (walked.to_target (by simp)).put_of_free (by simp [IsEnd])
  | file => exact (walked.to_target (by simp)).put_of_taken content

/-! ### Trees with a file more -/

/-- A location without links has none either if a file is put somewhere. -/
theorem Straight.put (straight : t.Straight m) (nonempty : l ≠ []) (content : ByteArray) :
    (t.put l (.file content)).Straight m where
  named := straight.named
  ends := by
    intro m' hm e found
    by_cases same : m' = l
    · rw [same, entryAt?_put_self t nonempty] at found
      cases found
      exact nofun
    · rw [entryAt?_put_of_ne t same] at found
      exact straight.ends m' hm e found

/-- **What is so once a file has been written**: its path leads to it, and what the tree was before
in other respects it still is. -/
structure Written (t t' : FileTree) (p : Path) (content : ByteArray) : Prop where
  located : ∃ l, t'.locate .target p = .ok (.taken l (.file content))
  working : t'.workingDirectory = t.workingDirectory
  proper : t.Proper → t'.Proper
  resolved : ∀ q, t.IsResolved q → t'.IsResolved q

/-- What is put at a place that takes a file has been written. -/
theorem written_put (located : t.locate .file p = .ok place) (takes : Place.TakesFile place l)
    (content : ByteArray) : t.Written (t.put l (.file content)) p content := by
  have possible := isPossible_of_locate located
  have walked := walks_of_locate located
  have other : t.entryAt? l ≠ some .directory := by
    intro directory
    cases takes with
    | free =>
        obtain ⟨-, -, -, -, -, none⟩ := walked.exists_of_free
        cases none.symm.trans directory
    | file => cases walked.entryAt?_of_taken.symm.trans directory
  have nonempty : l ≠ [] := by
    rintro rfl
    exact other rfl
  refine ⟨⟨l, locate_of_walks possible (walked.put_file takes content)⟩, rfl, fun proper => ?_,
    fun q resolved => ?_⟩
  · refine proper.put ?_ (by simp [IsEnd]) other
    cases takes with
    | free =>
        obtain ⟨above, name, rfl, named, directory, -⟩ := walked.exists_of_free
        exact proper.named_append directory named.entry
    | file =>
        exact proper.named _ ((eq_or_mem_of_entryAt? walked.entryAt?_of_taken).resolve_left
          fun root => nonempty root.1)
  · exact ⟨resolved.root, resolved.straight.put nonempty content, resolved.slash, resolved.nonzero⟩

namespace Written

/-- **What was written is read.** -/
theorem read_eq (h : t.Written t' p content) : t'.read p = .ok content := by
  obtain ⟨l, located⟩ := h.located
  rw [read, located]
  rfl

/-- There is a file where one was written. -/
theorem isFile_eq (h : t.Written t' p content) : t'.isFile p = .ok true := by
  obtain ⟨l, located⟩ := h.located
  rw [isFile, lookup, located]
  rfl

/-- The path of a file that was written is a possible one. -/
theorem hasZero_eq (h : t.Written t' p content) : p.hasZero = false := by
  obtain ⟨l, located⟩ := h.located
  exact (isPossible_of_locate located).nonzero

end Written

end FileTree

/-- **Writing a file**, where it succeeds, does what it should. -/
theorem FileAction.written_of_writeFile {t t' : FileTree} {p : Path} {content : ByteArray}
    (h : (writeFile p content).runOn t = (.ok (), t')) : t.Written t' p content := by
  obtain ⟨place, t₁, asked, done⟩ := exists_of_run_bind_ok h
  obtain ⟨located, rfl⟩ := Prod.mk.inj asked
  cases place with
  | taken l e =>
      cases e with
      | file old =>
          cases done
          exact FileTree.written_put located (.file l old) content
      | sealed | directory | closed | link => cases done
  | free l =>
      cases done
      exact FileTree.written_put located (.free l) content

end ProcessStubs
