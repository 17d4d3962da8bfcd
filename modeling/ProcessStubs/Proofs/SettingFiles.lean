import ProcessStubs.Proofs.Accounts
import ProcessStubs.Proofs.Places
import ProcessStubs.Settings.Load

/-!
# Which setting files can be loaded

A setting file that is not there, or that is malformed, counts as empty, and a warning says so. Two
kinds of malformed files are not covered by this and end loading: bytes that are no text, and two
definitions that clash inside of a table. A clash at the top level is covered, though. Nothing can
be loaded where nothing can be.

## Main definitions

* `FileTree.Loadable`: none of these is in the way.
* `LoadedFields.Reports`: what was loaded is either all that a file says, or nothing and a warning.

## Main results

* `loadFields_of_unread`, `loadFields_of_text`: how loading ends where there is no text, and where
  there is one.
* `loadFields_returns_iff`: a file is loaded exactly if it is loadable.
-/

namespace ProcessStubs

/-- **A setting file that can be loaded.** Something can be at its path, and if a file is there, its
bytes are a text, and no two definitions of it clash inside of a table. -/
structure FileTree.Loadable (t : FileTree) (file : Path) : Prop where
  possible : file.hasZero = false
  decoded : ∀ bytes, t.read file = .ok bytes → ∃ text, textOfBytes bytes = .ok text
  compatible : ∀ text clash, t.readText file = .ok text →
    Toml.readToml text ≠ .error (.unplaced clash)

/-- **What was loaded of a file**: all the fields that its text defines and no diagnostics, or no
fields and one warning about the file, which then defines none. -/
def LoadedFields.Reports (loaded : LoadedFields) (t : FileTree) (file : Path) : Prop :=
  (∃ text, t.readText file = .ok text ∧ Toml.readToml text = .ok loaded.fields ∧
    loaded.diagnostics = []) ∨
  (loaded.fields = [] ∧ (∃ message, loaded.diagnostics = [⟨.warning, message, some file⟩]) ∧
    ∀ text fields, t.readText file = .ok text → Toml.readToml text ≠ .ok fields)

variable {t : FileTree} {file : Path}

/-! ### Reading the text -/

/-- There is no text in a file that cannot be read. -/
theorem readText_of_unread {f : FileFault} (h : t.read file = .error f) :
    t.readText file = .error (.unusable f) := by
  rw [FileTree.readText, h]
  rfl

/-- The text in a file is what its bytes hold. -/
theorem readText_of_read {bytes : ByteArray} (h : t.read file = .ok bytes) :
    t.readText file = textOfBytes bytes := by
  rw [FileTree.readText, h]
  rfl

/-- Bytes hold a text, or they are none. -/
theorem textOfBytes_cases (bytes : ByteArray) :
    (∃ text, textOfBytes bytes = .ok text) ∨ ∃ f, textOfBytes bytes = .error (.notText f) := by
  rw [textOfBytes]
  cases Text.decodeUtf8 bytes with
  | ok text => exact .inl ⟨_, rfl⟩
  | error f => exact .inr ⟨f, rfl⟩

/-! ### Loading -/

/-- A file that is there, but cannot be read, is reported. -/
theorem loadFields_of_unread {f : FileFault} (possible : file.hasZero = false)
    (h : t.read file = .error f) :
    ∃ loaded, loadFields t file = .ok loaded ∧ loaded.Reports t file := by
  have unread := readText_of_unread h
  rw [loadFields, unread]
  simp only [FileTree.isMistake_of_read possible h, Bool.false_eq_true, if_false]
  refine ⟨_, rfl, .inr ⟨rfl, ⟨_, rfl⟩, ?_⟩⟩
  intro text fields read
  cases unread.symm.trans read

/-- A text is read, or reported as malformed, unless definitions clash inside of a table. -/
theorem loadFields_of_text {text : String} (h : t.readText file = .ok text)
    (compatible : ∀ clash, Toml.readToml text ≠ .error (.unplaced clash)) :
    ∃ loaded, loadFields t file = .ok loaded ∧ loaded.Reports t file := by
  rw [loadFields, h]
  dsimp only
  cases parsed : Toml.readToml text with
  | ok fields => exact ⟨_, rfl, .inl ⟨text, h, parsed, rfl⟩⟩
  | error fault =>
      cases fault with
      | unplaced clash => exact absurd parsed (compatible clash)
      | «at» flaw place =>
          refine ⟨_, rfl, .inr ⟨rfl, ⟨_, rfl⟩, ?_⟩⟩
          intro text' fields read parsed'
          cases h.symm.trans read
          cases parsed.symm.trans parsed'

/-- **A loadable file is loaded**, and what was loaded tells what it says. -/
theorem FileTree.Loadable.loadFields (h : t.Loadable file) :
    ∃ loaded, loadFields t file = .ok loaded ∧ loaded.Reports t file := by
  cases read : t.read file with
  | error f => exact loadFields_of_unread h.possible read
  | ok bytes =>
      obtain ⟨text, held⟩ := h.decoded bytes read
      have readText := (readText_of_read read).trans held
      exact loadFields_of_text readText fun clash => h.compatible text clash readText

/-- A file that was loaded is loadable: each of the other ends has its own fault. -/
theorem loadable_of_loadFields {loaded : LoadedFields} (h : loadFields t file = .ok loaded) :
    t.Loadable file := by
  rw [loadFields] at h
  refine ⟨?_, ?_, ?_⟩
  · by_contra zero
    have unread := FileTree.read_of_hasZero (t := t) (by simpa using zero)
    rw [readText_of_unread unread] at h
    cases h
  · intro bytes read
    refine (textOfBytes_cases bytes).resolve_right ?_
    rintro ⟨f, none⟩
    rw [readText_of_read read, none] at h
    cases h
  · intro text clash read clashing
    rw [read] at h
    simp only [clashing] at h
    cases h

/-- Loading ends with fields exactly if the file is loadable. -/
theorem exists_loadFields_iff : (∃ loaded, loadFields t file = .ok loaded) ↔ t.Loadable file := by
  constructor
  · rintro ⟨loaded, h⟩
    exact loadable_of_loadFields h
  · intro h
    obtain ⟨loaded, ok, -⟩ := h.loadFields
    exact ⟨loaded, ok⟩

/-- The settings in a file can be loaded exactly if the file can. -/
theorem exists_loadSettingFields_iff :
    (∃ loaded, loadSettingFields t file = .ok loaded) ↔ t.Loadable file := by
  rw [← exists_loadFields_iff]
  constructor
  · rintro ⟨loaded, h⟩
    obtain ⟨all, ok, -⟩ := bind_eq_ok_iff.mp h
    exact ⟨all, ok⟩
  · rintro ⟨all, ok⟩
    rw [loadSettingFields, ok, ok_bind]
    split <;> exact ⟨_, rfl⟩

/-- A candidate for a setting file is one if it is a file. -/
theorem isSettingFile_eq {is_file : Bool} (h : t.isFile file = .ok is_file) :
    isSettingFile t file = .ok is_file := by
  rw [isSettingFile, h]
  rfl

/-- **Looking for a setting file** in a directory, both of whose candidates can be asked about, ends
with an answer exactly if the project file need not be loaded, or can be. -/
theorem exists_findSettingFile_iff {directory : Path} {settings project : Bool}
    (hs : t.isFile (directory.child settingFileName) = .ok settings)
    (hp : t.isFile (directory.child projectFileName) = .ok project) :
    (∃ found, findSettingFile t directory = .ok found) ↔
      settings = true ∨ project = false ∨ t.Loadable (directory.child projectFileName) := by
  rw [findSettingFile, isSettingFile_eq hs, ok_bind]
  cases settings with
  | true => simp [pure, Except.pure]
  | false =>
      simp only [Bool.false_eq_true, if_false, false_or]
      rw [isSettingFile_eq hp, ok_bind]
      cases project with
      | false => simp [pure, Except.pure]
      | true =>
          simp only [if_true, Bool.true_eq_false, false_or]
          rw [← exists_loadFields_iff]
          constructor
          · rintro ⟨found, h⟩
            obtain ⟨loaded, ok, -⟩ := bind_eq_ok_iff.mp h
            exact ⟨loaded, ok⟩
          · rintro ⟨loaded, ok⟩
            rw [ok, ok_bind]
            exact ⟨_, rfl⟩

/-- **Which setting files can be loaded.** Loading a file ends exactly if the file is loadable, with
all its fields or with a warning; so does loading the settings in it; and so does looking for the
setting file of a directory, as far as a project file has to be loaded for that. -/
theorem loadFields_returns_iff (t : FileTree) (file : Path) :
    ((∃ loaded, loadFields t file = .ok loaded) ↔ t.Loadable file) ∧
    (∀ loaded, loadFields t file = .ok loaded → loaded.Reports t file) ∧
    ((∃ loaded, loadSettingFields t file = .ok loaded) ↔ t.Loadable file) ∧
    ∀ directory settings project,
      t.isFile (directory.child settingFileName) = .ok settings →
      t.isFile (directory.child projectFileName) = .ok project →
      ((∃ found, findSettingFile t directory = .ok found) ↔
        settings = true ∨ project = false ∨ t.Loadable (directory.child projectFileName)) := by
  refine ⟨exists_loadFields_iff, ?_, exists_loadSettingFields_iff, ?_⟩
  · intro loaded h
    obtain ⟨loaded', ok, reports⟩ := (loadable_of_loadFields h).loadFields
    cases h.symm.trans ok
    exact reports
  · intro directory settings project hs hp
    exact exists_findSettingFile_iff hs hp

/-- A tree with one file at the root, of one byte that begins no character. -/
def FileTree.oneByte (name : String) : FileTree := ⟨[], [([name], .file ⟨#[0xFF]⟩)]⟩

/-- The byte is no text. -/
theorem textOfBytes_oneByte : ∃ f, textOfBytes ⟨#[0xFF]⟩ = .error (.notText f) := by
  have invalid : ¬ (⟨#[0xFF]⟩ : ByteArray).IsValidUTF8 := by decide +kernel
  rw [textOfBytes, Text.decodeUtf8, dif_neg invalid]
  exact ⟨_, rfl⟩

/-- The names of setting files can be walked along. -/
theorem isShortName_of_settings {name : String}
    (h : name = settingFileName ∨ name = projectFileName) :
    IsShortName name ∧ (Path.mk .root [name]).IsPossible := by
  rcases h with rfl | rfl
  all_goals exact ⟨by decide, by decide⟩

/-- The byte is at the name of the file. -/
theorem FileTree.locate_oneByte {name : String}
    (h : name = settingFileName ∨ name = projectFileName) :
    (oneByte name).locate .target ⟨.root, [name]⟩ = .ok (.taken [name] (.file ⟨#[0xFF]⟩)) := by
  obtain ⟨named, possible⟩ := isShortName_of_settings h
  exact locate_root_file named possible (by simp [oneByte, entryAt?, Assoc.get?])

/-- The byte is read at the name of the file. -/
theorem FileTree.read_oneByte {name : String}
    (h : name = settingFileName ∨ name = projectFileName) :
    (oneByte name).read ⟨.root, [name]⟩ = .ok ⟨#[0xFF]⟩ := by
  rw [read, locate_oneByte h]
  rfl

/-- A setting file of this byte cannot be loaded, though it can be read. -/
theorem not_loadFields_oneByte :
    (FileTree.oneByte settingFileName).read ⟨.root, [settingFileName]⟩ = .ok ⟨#[0xFF]⟩ ∧
      ¬ ∃ loaded, loadFields (FileTree.oneByte settingFileName) ⟨.root, [settingFileName]⟩ =
        .ok loaded := by
  have read := FileTree.read_oneByte (.inl rfl)
  refine ⟨read, ?_⟩
  rw [exists_loadFields_iff]
  intro loadable
  obtain ⟨text, held⟩ := loadable.decoded _ read
  obtain ⟨f, untold⟩ := textOfBytes_oneByte
  cases held.symm.trans untold

/-- Looking for the setting file of a directory does not end with an answer if the project file in
it is this byte. -/
theorem loadFields_returns_iff_oneByte :
    let t := FileTree.oneByte projectFileName
    t.isFile (Path.child ⟨.root, []⟩ settingFileName) = .ok false ∧
      t.isFile (Path.child ⟨.root, []⟩ projectFileName) = .ok true ∧
      ¬ ∃ found, findSettingFile t ⟨.root, []⟩ = .ok found := by
  intro t
  have settings : t.isFile (Path.child ⟨.root, []⟩ settingFileName) = .ok false := by
    obtain ⟨named, possible⟩ := isShortName_of_settings (.inl rfl)
    have free : t.locate .target ⟨.root, [settingFileName]⟩ = .ok (.free [settingFileName]) :=
      FileTree.locate_root_free named possible rfl
    simp [FileTree.isFile, FileTree.lookup, Path.child, free]
  have project : t.isFile (Path.child ⟨.root, []⟩ projectFileName) = .ok true := by
    simp [FileTree.isFile, FileTree.lookup, Path.child, t, FileTree.locate_oneByte]
    rfl
  refine ⟨settings, project, ?_⟩
  rw [(loadFields_returns_iff t ⟨.root, [projectFileName]⟩).2.2.2 _ _ _ settings project]
  rintro (none | none | loadable)
  · cases none
  · cases none
  · have read := FileTree.read_oneByte (.inr rfl)
    obtain ⟨text, held⟩ := loadable.decoded _ read
    obtain ⟨f, untold⟩ := textOfBytes_oneByte
    cases held.symm.trans untold

end ProcessStubs
