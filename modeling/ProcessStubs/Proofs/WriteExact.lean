import ProcessStubs.Proofs.WriteFrame

/-!
# How exact one write to a directory is

A module counts as unchanged if the file that is there reads as its text, and a file is read with
every line end as a line feed. So a file with other line ends is left as it is, and a text with
carriage returns is written again each time. Apart from that a write is exact: the bytes of the file
are those of the text, and writing the text again leaves everything as it is.

## Main definitions

* `OtherLineEnds`: a file that reads as a text but does not hold its bytes.
* `WriteLeft`, `WriteFrame`: what a write that returns leaves, and what it has changed.

## Main results

* `textOfBytes_toUTF8_iff`: the bytes of a text read as the text if it holds no carriage return.
* `writeText_left`: what a write that returns leaves, and when that is exact.
* `writeText_framed`: what a write that returns has changed.
-/

namespace ProcessStubs

open FileTree FileAction

/-! ### Reading texts back -/

namespace Text

/-- With line feeds as line ends there are no carriage returns. -/
theorem not_mem_unifyLineEnds (cs : List Char) : '\r' ∉ unifyLineEnds cs := by
  fun_induction unifyLineEnds cs with
  | case1 rest ih => simpa using ih
  | case2 c rest _ ih =>
      rw [List.mem_cons, not_or]
      refine ⟨?_, ih⟩
      split
      · decide
      · next other => exact fun same => other same.symm
  | case3 => simp

end Text

/-- A text that was read holds no carriage return. -/
theorem not_mem_of_textOfBytes {bytes : ByteArray} {text : String}
    (read : textOfBytes bytes = .ok text) : '\r' ∉ text.toList := by
  rw [textOfBytes] at read
  split at read
  · cases read
    rw [String.toList_ofList]
    exact Text.not_mem_unifyLineEnds _
  · cases read

/-- The bytes of a text read as the text with other line ends. -/
theorem textOfBytes_toUTF8_eq (text : String) :
    textOfBytes text.toUTF8 = .ok (String.ofList (Text.unifyLineEnds text.toList)) := by
  rw [textOfBytes, Text.decode_toUTF8]

/-- **The bytes of a text read as the text** exactly if it holds no carriage return. -/
theorem textOfBytes_toUTF8_iff {text : String} :
    textOfBytes text.toUTF8 = .ok text ↔ '\r' ∉ text.toList :=
  ⟨not_mem_of_textOfBytes, textOfBytes_toUTF8⟩

/-- **A file with other line ends**: it reads as a text but does not hold its bytes. -/
def OtherLineEnds (text : String) (e : Option FileEntry) : Prop :=
  ∃ old, e = some (.file old) ∧ textOfBytes old = .ok text ∧ old ≠ text.toUTF8

/-- There is no file with other line ends where there is nothing. -/
theorem not_otherLineEnds_none (text : String) : ¬ OtherLineEnds text none := nofun

/-- A file reads as the text, and if it has no other line ends, it holds its bytes. -/
theorem otherLineEnds_iff {text : String} {old : ByteArray} :
    OtherLineEnds text (some (.file old)) ↔ textOfBytes old = .ok text ∧ old ≠ text.toUTF8 := by
  constructor
  · rintro ⟨_, ⟨⟩, read⟩
    exact read
  · exact fun read => ⟨old, rfl, read⟩

/-! ### The place of a module -/

/-- **When the status of a write is exact**: there is no file with other line ends, the text can be
read back if its bytes are there, and no marker with the text has been made on the way. -/
structure ExactStatus (u : Stub) (packageMarkers : Bool) (text : String) (e : Option FileEntry) :
    Prop where
  lineEnds : ¬ OtherLineEnds text e
  readBack : e = some (.file text.toUTF8) → '\r' ∉ text.toList
  marker : ¬ (e = none ∧ packageMarkers = true ∧ u.typeName = "__init__" ∧
    text = packageMarkerText)

namespace Stub.Reached

variable {u : Stub} {root : Path} {packageMarkers : Bool} {l : Location} {t t' : FileTree}

/-- A module has the name of markers exactly if its type is named so. -/
theorem fileName_eq_iff (u : Stub) :
    u.typeName ++ moduleSuffix = packageMarkerName ↔ u.typeName = "__init__" := by
  have marker : packageMarkerName = "__init__" ++ moduleSuffix := by decide
  rw [marker]
  simp

/-- Where a module goes nothing is new but a marker of that name, or a directory in its way. -/
theorem place_cases (h : u.Reached root packageMarkers l t t') :
    t'.entryAt? (u.place l) = t.entryAt? (u.place l) ∨
      t.entryAt? (u.place l) = none ∧ (t'.entryAt? (u.place l) = some .directory ∨
        packageMarkers = true ∧ u.typeName = "__init__" ∧
          t'.entryAt? (u.place l) = some (.file packageMarkerText.toUTF8)) := by
  rcases h.new (u.place l) with same | ⟨free, directory, -⟩ | new
  · exact .inl same
  · exact .inr ⟨free, .inl directory⟩
  · generalize hm : u.place l = m at new
    cases new with
    | directory _ _ free directory => exact .inr ⟨free, .inl directory⟩
    | marker markers _ _ free marker =>
        obtain ⟨-, names⟩ := List.append_inj' hm rfl
        have type := (fileName_eq_iff u).mp (List.singleton_inj.mp names)
        exact .inr ⟨free, .inr ⟨markers, type, marker⟩⟩

/-- Where a module has the name of markers, there is one when its turn comes. -/
theorem exists_of_init (h : u.Reached root packageMarkers l t t')
    (nonempty : u.packageNames ≠ []) (markers : packageMarkers = true)
    (type : u.typeName = "__init__") : ∃ e, t'.entryAt? (u.place l) = some e := by
  obtain ⟨-, e, found, -⟩ := h.way.marked markers u.packageNames List.prefix_rfl nonempty
  rw [← (fileName_eq_iff u).mpr type] at found
  exact ⟨e, found⟩

variable {text : String} {status : WriteStatus} {t'' : FileTree}

/-- Markers hold no carriage return. -/
theorem textOfBytes_packageMarkerText :
    textOfBytes packageMarkerText.toUTF8 = .ok packageMarkerText :=
  textOfBytes_toUTF8 (by simp [packageMarkerText])

/-- **A text that counts as unchanged**: the bytes of the file are as they were. -/
theorem exact_of_unchanged (h : u.Reached root packageMarkers l t t') {old : ByteArray}
    (found : t'.entryAt? (u.place l) = some (.file old)) (read : textOfBytes old = .ok text) :
    (old = text.toUTF8 ↔ ¬ OtherLineEnds text (t.entryAt? (u.place l))) ∧
      (t.entryAt? (u.place l) = some (.file text.toUTF8) ↔
        ExactStatus u packageMarkers text (t.entryAt? (u.place l))) := by
  have returns := not_mem_of_textOfBytes read
  rcases h.place_cases with same | ⟨free, directory | ⟨markers, type, marker⟩⟩
  · rw [← same, found, otherLineEnds_iff]
    have bytes : old = text.toUTF8 ↔ ¬ (textOfBytes old = .ok text ∧ old ≠ text.toUTF8) := by
      simp [read]
    refine ⟨bytes, ?_⟩
    constructor
    · intro there
      obtain rfl : old = text.toUTF8 := by simpa using there
      exact ⟨by simp [otherLineEnds_iff], fun _ => returns, nofun⟩
    · intro exact'
      rw [bytes.mpr (otherLineEnds_iff.not.mp exact'.lineEnds)]
  · cases found.symm.trans directory
  · cases found.symm.trans marker
    obtain rfl : packageMarkerText = text :=
      Except.ok.inj (textOfBytes_packageMarkerText.symm.trans read)
    rw [free]
    refine ⟨by simp [not_otherLineEnds_none], ?_⟩
    exact ⟨nofun, fun exact' => absurd ⟨rfl, markers, type, rfl⟩ exact'.marker⟩

/-- **A text that is written**: there was no file that reads as it. -/
theorem exact_of_written (h : u.Reached root packageMarkers l t t')
    (nonempty : u.packageNames ≠ []) (clear : t'.entryAt? (u.place l) ≠ some .directory)
    (other : ∀ old, t'.entryAt? (u.place l) = some (.file old) → textOfBytes old ≠ .ok text) :
    ¬ OtherLineEnds text (t.entryAt? (u.place l)) ∧
      (t.entryAt? (u.place l) ≠ some (.file text.toUTF8) ↔
        ExactStatus u packageMarkers text (t.entryAt? (u.place l))) := by
  have kept {e} (found : t.entryAt? (u.place l) = some e) := h.entry _ e found
  have lineEnds : ¬ OtherLineEnds text (t.entryAt? (u.place l)) := by
    rintro ⟨old, found, read, -⟩
    exact other old (kept found) read
  refine ⟨lineEnds, fun absent => ⟨lineEnds, fun there => absurd there absent, ?_⟩, ?_⟩
  · rintro ⟨free, markers, type, rfl⟩
    obtain ⟨e, found⟩ := h.exists_of_init nonempty markers type
    rcases h.place_cases with same | ⟨-, directory | ⟨-, -, marker⟩⟩
    · cases found.symm.trans (same.trans free)
    · exact clear directory
    · exact other _ marker textOfBytes_packageMarkerText
  · intro exact' there
    exact other _ (kept there) (textOfBytes_toUTF8 (exact'.readBack there))

/-- **A text that was stored** leaves its bytes unless there was a file with other line ends, and
says exactly if its bytes were there already if the status is exact. -/
theorem exact_of_stored (h : u.Reached root packageMarkers l t t')
    (nonempty : u.packageNames ≠ []) (stored : TextStored (u.place l) text t' (.ok status) t'') :
    (t''.entryAt? (u.place l) = some (.file text.toUTF8) ↔
        ¬ OtherLineEnds text (t.entryAt? (u.place l))) ∧
      ((status = .unchanged ↔ t.entryAt? (u.place l) = some (.file text.toUTF8)) ↔
        ExactStatus u packageMarkers text (t.entryAt? (u.place l))) := by
  have place : u.place l ≠ [] := by simp [Stub.place]
  cases stored with
  | unchanged found read =>
      obtain ⟨bytes, exact'⟩ := h.exact_of_unchanged found read
      rw [found]
      simpa using ⟨bytes, exact'⟩
  | fresh free =>
      obtain ⟨lineEnds, exact'⟩ : ¬ OtherLineEnds text _ ∧ _ :=
        h.exact_of_written nonempty (by simp [free]) (by simp [free])
      rw [entryAt?_put_self t' place]
      simpa [lineEnds] using exact'
  | replaced found read other =>
      obtain ⟨lineEnds, exact'⟩ : ¬ OtherLineEnds text _ ∧ _ :=
        h.exact_of_written nonempty (by simp [found]) (by simpa [found, read] using other)
      rw [entryAt?_put_self t' place]
      simpa [lineEnds] using exact'

end Stub.Reached

/-! ### One module -/

/-- A tree with one module of a package, and what its file holds. -/
def withModule (content : ByteArray) : FileTree :=
  ⟨[], [(["out"], .directory), (["out", "p"], .directory),
    (["out", "p", "__init__.py"], .file packageMarkerText.toUTF8),
    (["out", "p", "T.py"], .file content)]⟩

/-- The stub of the module. -/
def Stub.sole : Stub := ⟨"p", "T", .interface, [], [], "", none⟩

/-- The module has a place. -/
theorem placeable_sole : Stub.sole.Placeable := ⟨by decide +kernel, by decide +kernel⟩

/-- There are no links. -/
theorem linkFree_withModule (content : ByteArray) : (withModule content).LinkFree := by
  intro l e found
  rcases eq_or_mem_of_entryAt? found with ⟨-, rfl⟩ | there
  · exact nofun
  · simp only [withModule, List.mem_cons, Prod.mk.injEq, List.not_mem_nil, or_false] at there
    rcases there with ⟨-, rfl⟩ | ⟨-, rfl⟩ | ⟨-, rfl⟩ | ⟨-, rfl⟩
    all_goals exact nofun

/-- The way to the module is there. -/
theorem wayMade_withModule (content : ByteArray) :
    WayMade ⟨.root, ["out"]⟩ Stub.sole.packageNames true ["out"] (withModule content) := by
  have names : Stub.sole.packageNames = ["p"] := by decide +kernel
  have out : (withModule content).Opens ⟨.root, ["out"]⟩ ["out"] :=
    (Opens.root _).child ⟨by decide, by decide⟩ rfl
  rw [names]
  refine .single out ?_ rfl ⟨?_, _, rfl, by simp [IsEnd]⟩
  · exact ⟨by decide, by decide⟩
  · exact ⟨by decide, by decide⟩

/-- **A write** that finds the file of the module compares the texts. -/
theorem writeText_sole {content : ByteArray} {current : String}
    (read : textOfBytes content = .ok current) (text : String) :
    ∃ w, (Destination.directory ⟨.root, ["out"]⟩ true).writeText ⟨[], withModule content⟩ Stub.sole
        text = (.ok w, ⟨[], if current = text then withModule content
          else (withModule content).put (Stub.sole.place ["out"]) (.file text.toUTF8)⟩) ∧
      w.status = if current = text then .unchanged else .written := by
  have usable : Stub.sole.unusableName? = none := by decide +kernel
  have place : Stub.sole.place ["out"] = ["out", "p", "T.py"] := by decide +kernel
  have way := wayMade_withModule content
  have fits : (Path.below ⟨.root, ["out"]⟩ Stub.sole.packageNames).Fits
      (Stub.sole.typeName ++ moduleSuffix) := by
    have names : Stub.sole.packageNames = ["p"] := by decide +kernel
    rw [names]
    exact ⟨by decide, by decide⟩
  have found : (withModule content).entryAt? (Stub.sole.place ["out"]) = some (.file content) := by
    rw [place]
    rfl
  have stored := placeable_sole.storeModule_of_wayMade way fits found read text
  split at stored
  · next same =>
      rw [if_pos same, if_pos same]
      exact Destination.exists_writeText_of_stored usable ⟨[], withModule content⟩ stored
  · next other =>
      rw [if_neg other, if_neg other]
      exact Destination.exists_writeText_of_stored usable ⟨[], withModule content⟩ stored

/-! ### Writes that return -/

section

variable {root : Path} {packageMarkers : Bool} {store store' : Store} {u : Stub} {text : String}
  {w : Write}

/-- What is new where a module was written: directories on the path of the root if it did not lead
to its location before, and directories and markers of the package. -/
def NewByWrite (root : Path) (packageMarkers : Bool) (u : Stub) (l : Location) (t t' : FileTree)
    (m : Location) : Prop :=
  ¬ t.Opens root l ∧ NewOnPath root t t' m ∨ NewInPackage u.packageNames packageMarkers l t t' m

/-- Nothing else is new on the way to a module. -/
theorem Stub.Reached.newByWrite {l : Location} {t t' : FileTree}
    (h : u.Reached root packageMarkers l t t') (m : Location) :
    t'.entryAt? m = t.entryAt? m ∨ NewByWrite root packageMarkers u l t t' m := by
  rcases h.new m with same | onPath | inPackage
  · exact .inl same
  · exact .inr (.inl ⟨fun opens => Folder.not_newOnPath (.inl opens) h.grows m onPath, onPath⟩)
  · exact .inr (.inr inPackage)

/-- A module that was stored holds a text that is read, and this is the text that was stored if that
counts as unchanged. -/
theorem FileTree.TextStored.exists_text {place : Location} {t t' : FileTree} {status : WriteStatus}
    (h : TextStored place text t (.ok status) t') (nonempty : place ≠ []) :
    ∃ bytes current, t'.entryAt? place = some (.file bytes) ∧
      textOfBytes bytes = .ok current ∧ (current = text ↔ '\r' ∉ text.toList) := by
  obtain ⟨current, read⟩ := holdsText_toUTF8 text
  have same : current = text ↔ '\r' ∉ text.toList := by
    rw [← textOfBytes_toUTF8_iff, read]
    simp
  cases h with
  | unchanged found read' =>
      have returns := not_mem_of_textOfBytes read'
      exact ⟨_, text, found, read', by simp [returns]⟩
  | fresh | replaced => exact ⟨_, current, entryAt?_put_self t nonempty _, read, same⟩

/-- Where a text counts as unchanged, nothing is done. -/
theorem FileTree.TextStored.status_cases {place : Location} {t t' : FileTree} {status : WriteStatus}
    (h : TextStored place text t (.ok status) t') :
    status = .unchanged ∧ t' = t ∨ status = .written := by
  cases h with
  | unchanged => exact .inl ⟨rfl, rfl⟩
  | fresh | replaced => exact .inr rfl

/-- **What a write that returns leaves** below a root that leads to a location. -/
structure WriteLeft (root : Path) (packageMarkers : Bool) (u : Stub) (text : String) (store : Store)
    (w : Write) (store' : Store) (l : Location) : Prop where
  opens : store'.files.Opens root l
  status : w.status = .unchanged ∨ w.status = .written
  /-- The file of the module holds the bytes of the text, unless it has other line ends. -/
  bytes_iff : store'.files.entryAt? (u.place l) = some (.file text.toUTF8) ↔
    ¬ OtherLineEnds text (store.files.entryAt? (u.place l))
  /-- The status says whether these bytes were there, unless it is not exact. -/
  status_iff : (w.status = .unchanged ↔
      store.files.entryAt? (u.place l) = some (.file text.toUTF8)) ↔
    ExactStatus u packageMarkers text (store.files.entryAt? (u.place l))
  /-- Where the module is unchanged, at most the way to it is new. -/
  unchanged : w.status = .unchanged → ∀ m,
    store'.files.entryAt? m = store.files.entryAt? m ∨
      NewByWrite root packageMarkers u l store.files store'.files m
  /-- Writing the text again returns, and leaves the module unchanged if it can be read back. -/
  again : ∃ w' store'', (Destination.directory root packageMarkers).writeText store' u text =
    (.ok w', store'') ∧ (w'.status = .unchanged ↔ '\r' ∉ text.toList)

/-- **A write that returns** leaves the bytes of the text and says whether they were there, but for
line ends. -/
theorem writeText_left (package : isPackageName u.packageName = true)
    (clear : store.files.OutputLinkFree root)
    (done : (Destination.directory root packageMarkers).writeText store u text =
      (.ok w, store')) :
    ∃ l, WriteLeft root packageMarkers u text store w store' l := by
  obtain ⟨usable, -⟩ := Destination.exists_of_writeText_ok (congrArg Prod.fst done)
  have placeable : u.Placeable := ⟨package, Stub.isUsableName_of_unusableName?_eq_none usable⟩
  obtain ⟨left, -, -⟩ := Destination.moduleStored_of_writeText package usable clear done
  generalize hs : Except.map Write.status (Except.ok w : Except WriteProblem Write) = result at left
  cases left with
  | blocked => cases hs
  | @stored l t₁ _ _ reached stored fits =>
      obtain rfl : .ok w.status = result := hs
      have nonempty : u.place l ≠ [] := by simp [Stub.place]
      obtain ⟨bytes, current, found, read, same⟩ := stored.exists_text nonempty
      obtain ⟨bytes_iff, status_iff⟩ := reached.exact_of_stored u.packageNames_ne_nil stored
      have way := reached.way.grows (stored.grows nonempty)
      refine ⟨l, way.opens_root, ?_, bytes_iff, status_iff, ?_, ?_⟩
      · exact stored.status_cases.imp_left And.left
      · intro unchanged m
        obtain ⟨-, same⟩ := stored.status_cases.resolve_right (by simp [unchanged])
        rw [same]
        exact reached.newByWrite m
      · have again := placeable.storeModule_of_wayMade way (fits _ rfl) found read text
        rw [← same]
        split at again
        · next unchanged =>
            obtain ⟨w', written, status⟩ :=
              Destination.exists_writeText_of_stored usable store' again
            exact ⟨w', _, written, by simp [status, unchanged]⟩
        · next other =>
            obtain ⟨w', written, status⟩ :=
              Destination.exists_writeText_of_stored usable store' again
            exact ⟨w', _, written, by simp [status, other]⟩

/-- A module is written over and then left as it is. -/
theorem writeText_left_over :
    let u := Stub.sole
    let store : Store := ⟨[], withModule "a".toUTF8⟩
    isPackageName u.packageName = true ∧ store.files.OutputLinkFree ⟨.root, ["out"]⟩ ∧
      ∃ w store', (Destination.directory ⟨.root, ["out"]⟩ true).writeText store u "b" =
          (.ok w, store') ∧
        ∃ l, WriteLeft ⟨.root, ["out"]⟩ true u "b" store w store' l := by
  intro u store
  have clear := (linkFree_withModule "a".toUTF8).outputLinkFree ⟨.root, ["out"]⟩
  obtain ⟨w, written, -⟩ := writeText_sole (textOfBytes_toUTF8_eq "a") "b"
  exact ⟨placeable_sole.package, clear, w, _, written,
    writeText_left placeable_sole.package clear written⟩

/-- A file with other line ends is left as it is though it does not hold the bytes of the text, and
a text with a carriage return is written again though its bytes are there. -/
theorem not_writeText_exact_lineEnds :
    let d := Destination.directory ⟨.root, ["out"]⟩ true
    let place := Stub.sole.place ["out"]
    (∃ w store', d.writeText ⟨[], withModule "a\r\n".toUTF8⟩ Stub.sole "a\n" = (.ok w, store') ∧
      w.status = .unchanged ∧ store'.files.entryAt? place ≠ some (.file "a\n".toUTF8)) ∧
    ∃ w store', d.writeText ⟨[], withModule "a\r".toUTF8⟩ Stub.sole "a\r" = (.ok w, store') ∧
      (withModule "a\r".toUTF8).entryAt? place = some (.file "a\r".toUTF8) ∧
      w.status = .written := by
  intro d place
  have there (content : ByteArray) :
      (withModule content).entryAt? place = some (.file content) := by
    have names : place = ["out", "p", "T.py"] := by decide +kernel
    rw [names]
    rfl
  constructor
  · obtain ⟨w, written, status⟩ := writeText_sole (textOfBytes_toUTF8_eq "a\r\n") "a\n"
    have same : String.ofList (Text.unifyLineEnds "a\r\n".toList) = "a\n" := by decide
    rw [if_pos same] at written status
    refine ⟨w, _, written, status, ?_⟩
    rw [there]
    decide
  · obtain ⟨w, written, status⟩ := writeText_sole (textOfBytes_toUTF8_eq "a\r") "a\r"
    have other : String.ofList (Text.unifyLineEnds "a\r".toList) ≠ "a\r" := by decide
    rw [if_neg other] at written status
    exact ⟨w, _, written, there _, status⟩

/-! ### What has changed -/

/-- What is new on the way to a module is still new when its text is stored elsewhere. -/
theorem NewByWrite.later {l m : Location} {t t₁ t' : FileTree}
    (h : NewByWrite root packageMarkers u l t t₁ m) (growth : Grows t₁ t')
    (same : t₁.entryAt? m = t'.entryAt? m) : NewByWrite root packageMarkers u l t t' m := by
  rcases h with ⟨closed, free, directory, names, beginning, opens⟩ | new
  · exact .inl ⟨closed, free, same ▸ directory, names, beginning, opens.grows growth⟩
  · exact .inr (new.widen (.refl t) same)

/-- No file but a marker is new on the way to a module. -/
theorem NewByWrite.exists_marker {l m : Location} {t t' : FileTree} {content : ByteArray}
    (h : NewByWrite root packageMarkers u l t t' m) (found : t'.entryAt? m = some (.file content)) :
    packageMarkers = true ∧ ∃ q, q ≠ [] ∧ m = l ++ q ++ [packageMarkerName] := by
  rcases h with ⟨-, -, directory, -⟩ | new
  · cases found.symm.trans directory
  · cases new with
    | directory _ _ _ directory => cases found.symm.trans directory
    | @marker q markers _ nonempty => exact ⟨markers, q, nonempty, rfl⟩

/-- **The frame of a write** below a root that leads to a location. -/
structure WriteFrame (root : Path) (packageMarkers : Bool) (u : Stub) (t t' : FileTree)
    (l : Location) : Prop where
  opens : t'.Opens root l
  /-- The directories of the package are there. -/
  directory : ∀ q, q <+: u.packageNames → t'.entryAt? (l ++ q) = some .directory
  /-- If there are to be markers, each directory of the package has one. -/
  marker : packageMarkers = true → ∀ q, q <+: u.packageNames → q ≠ [] →
    ∃ e, t'.entryAt? (l ++ q ++ [packageMarkerName]) = some e
  /-- The root gains none, and no other file. -/
  beside : ∀ name content, t'.entryAt? (l ++ [name]) = some (.file content) →
    t.entryAt? (l ++ [name]) = some (.file content)
  /-- If there are to be no markers, no file but the module is created or changed. -/
  unmarked : packageMarkers = false → ∀ m content, t'.entryAt? m = some (.file content) →
    m ≠ u.place l → t.entryAt? m = some (.file content)
  /-- Nothing has changed but the module and the way to it. -/
  changed : ∀ m, t'.entryAt? m = t.entryAt? m ∨ m = u.place l ∨
    NewByWrite root packageMarkers u l t t' m

/-- A module that was stored has changed nothing but itself and the way to it. -/
theorem Stub.Reached.writeFrame {l : Location} {t t₁ t' : FileTree}
    (reached : u.Reached root packageMarkers l t t₁) (growth : Grows t₁ t')
    (others : ∀ m, m ≠ u.place l → t'.entryAt? m = t₁.entryAt? m) :
    WriteFrame root packageMarkers u t t' l := by
  have way := reached.way.grows growth
  have changed (m : Location) : t'.entryAt? m = t.entryAt? m ∨ m = u.place l ∨
      NewByWrite root packageMarkers u l t t' m := by
    by_cases place : m = u.place l
    · exact .inr (.inl place)
    · have same := others m place
      exact (reached.newByWrite m).imp same.trans fun new => .inr (new.later growth same.symm)
  refine ⟨way.opens_root, fun q hq => (way.opens q hq).directory, ?_, ?_, ?_, changed⟩
  · intro markers q hq nonempty
    obtain ⟨-, e, found, -⟩ := way.marked markers q hq nonempty
    exact ⟨e, found⟩
  · intro name content found
    rcases changed (l ++ [name]) with same | place | new
    · rw [← same, found]
    · have length := congrArg List.length place
      have names := List.length_pos_iff.mpr u.packageNames_ne_nil
      simp only [Stub.place, List.length_append, List.length_singleton] at length
      omega
    · obtain ⟨-, q, nonempty, place⟩ := new.exists_marker found
      have length := congrArg List.length place
      have names := List.length_pos_iff.mpr nonempty
      simp only [List.length_append, List.length_singleton] at length
      omega
  · intro unmarked m content found place
    rcases changed m with same | same | new
    · rw [← same, found]
    · exact absurd same place
    · cases unmarked.symm.trans (new.exists_marker found).1

/-- **A stub that cannot be used is not written**, and nothing changes. **A write that returns** has
made the package importable and has changed nothing else but the module. -/
theorem writeText_framed :
    (∀ (d : Destination) (store : Store) (u : Stub) (text : String) (problem : WriteProblem),
      u.unusableName? = some problem → d.writeText store u text = (.error problem, store)) ∧
    ∀ (root : Path) (packageMarkers : Bool) (store : Store) (u : Stub) (text : String) (w : Write)
      (store' : Store), isPackageName u.packageName = true → store.files.OutputLinkFree root →
      (Destination.directory root packageMarkers).writeText store u text = (.ok w, store') →
      ∃ l, WriteFrame root packageMarkers u store.files store'.files l := by
  constructor
  · intro d store u text problem unusable
    rw [Destination.writeText, unusable]
  · intro root packageMarkers store u text w store' package clear done
    obtain ⟨usable, -⟩ := Destination.exists_of_writeText_ok (congrArg Prod.fst done)
    obtain ⟨left, -, -⟩ := Destination.moduleStored_of_writeText package usable clear done
    generalize hs : Except.map Write.status (Except.ok w : Except WriteProblem Write) = result
      at left
    cases left with
    | blocked => cases hs
    | @stored l t₁ _ _ reached stored _ =>
        obtain rfl : .ok w.status = result := hs
        have growth := stored.grows (by simp [Stub.place])
        exact ⟨l, reached.writeFrame growth fun m other => stored.entryAt?_of_ne other⟩

/-- A module is written over, and a stub without a name is not written. -/
theorem writeText_framed_over :
    let d := Destination.directory ⟨.root, ["out"]⟩ true
    let store : Store := ⟨[], withModule "a".toUTF8⟩
    let nameless : Stub := { Stub.sole with typeName := "" }
    nameless.unusableName? = some (.unusableName .type "") ∧
      d.writeText store nameless "b" = (.error (.unusableName .type ""), store) ∧
      isPackageName Stub.sole.packageName = true ∧
      store.files.OutputLinkFree ⟨.root, ["out"]⟩ ∧
      ∃ w store', d.writeText store Stub.sole "b" = (.ok w, store') ∧
        ∃ l, WriteFrame ⟨.root, ["out"]⟩ true Stub.sole store.files store'.files l := by
  intro d store nameless
  have clear := (linkFree_withModule "a".toUTF8).outputLinkFree ⟨.root, ["out"]⟩
  have unusable : nameless.unusableName? = some (.unusableName .type "") := by decide +kernel
  obtain ⟨w, written, -⟩ := writeText_sole (textOfBytes_toUTF8_eq "a") "b"
  have package := placeable_sole.package
  have refused := writeText_framed.1 d store nameless "b" _ unusable
  exact ⟨unusable, refused, package, clear, w, _, written,
    writeText_framed.2 _ _ _ _ _ _ _ package clear written⟩

end

end ProcessStubs
