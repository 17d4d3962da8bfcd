import Mathlib.Data.List.TakeDrop
import Mathlib.Data.List.TakeWhile
import ProcessStubs.Markup.Reader
import ProcessStubs.Proofs.Steps

/-!
# Names that come out of markup

Whatever bytes a document has, the names that reading it hands on are made of characters that can
stand in names: the local name of the document element, and the names that faults quote. A decoder
gives a role to no other characters, and a reader keeps characters as part of a name only by their
role. This is an invariant of the reader (`Reader.Named`) that each of its steps keeps.

## Main results

* `Encoding.fair_decode`: no other characters get a role, in any encoding.
* `Reader.Named.step`: one symbol keeps the invariant.
* `gives_readDocument`: the document element and the faults.
-/

namespace ProcessStubs.Markup

/-! ### Characters of names -/

/-- Whether a character can stand in a name, in some encoding. -/
def isNameChar (c : Char) : Bool := nameRole c != .other || [':', 'ª', 'µ', 'º'].contains c

/-- A list of characters that can stand in names. -/
def IsName (cs : List Char) : Prop := ∀ c ∈ cs, isNameChar c = true

@[simp] theorem isName_nil : IsName [] := fun _ h => absurd h List.not_mem_nil

@[simp] theorem isName_cons {c : Char} {cs : List Char} :
    IsName (c :: cs) ↔ isNameChar c = true ∧ IsName cs := by simp [IsName]

@[simp] theorem isName_reverse {cs : List Char} : IsName cs.reverse ↔ IsName cs := by
  simp [IsName]

@[simp] theorem isNameChar_colon : isNameChar ':' = true := by decide +kernel

theorem isNameChar_of_nameRole {c : Char} (h : nameRole c ≠ .other) : isNameChar c = true := by
  simp [isNameChar, h]

/-- What stands after the colon of a name is made of its characters. -/
theorem IsName.of_splitLabel {name label rest : List Char} (h : IsName name)
    (split : splitLabel name = some (label, rest)) : IsName rest := by
  rw [splitLabel, List.span_eq_takeWhile_dropWhile] at split
  intro c hc
  refine h c ((List.dropWhile_sublist (· != ':')).subset ?_)
  cases hd : name.dropWhile (· != ':') with
  | nil =>
      rw [hd] at split
      cases split
  | cons colon after =>
      rw [hd] at split
      cases split
      exact List.mem_cons_of_mem _ hc

/-- The value of a setting of a declaration could be a name. -/
theorem isNameChar_of_isSettingChar {c : Char} (h : isSettingChar c = true) :
    isNameChar c = true := by
  have each : ∀ n : Fin 128, isSettingChar (Char.ofNat n) = true →
      isNameChar (Char.ofNat n) = true := by decide +kernel
  have small : c.toNat < 128 := by
    change (decide (65 ≤ c.val ∧ c.val ≤ 90) || (decide (97 ≤ c.val) && decide (c.val ≤ 122)) ||
      (decide (48 ≤ c.val) && decide (c.val ≤ 57)) || c == '.' || c == '-' || c == '_') = true at h
    simp only [Bool.or_eq_true, Bool.and_eq_true, decide_eq_true_eq, beq_iff_eq,
      UInt32.le_iff_toNat_le] at h
    change (((((65 ≤ c.toNat ∧ c.toNat ≤ 90) ∨ (97 ≤ c.toNat ∧ c.toNat ≤ 122)) ∨
      (48 ≤ c.toNat ∧ c.toNat ≤ 57)) ∨ c = '.') ∨ c = '-') ∨ c = '_' at h
    rcases h with ((letter | rfl) | rfl) | rfl
    · omega
    · decide
    · decide
    · decide
  have found := each ⟨c.toNat, small⟩
  rw [Char.ofNat_toNat] at found
  exact found h

/-! ### Symbols -/

/-- A symbol gives a role in names to no other characters than those of names. -/
def Symbol.Fair : Symbol → Prop
  | .char c role => role ≠ .other → isNameChar c = true
  | _ => True

theorem Symbol.fair_ofChar (c : Char) : (Symbol.ofChar c).Fair := by
  unfold ofChar
  split
  · exact isNameChar_of_nameRole
  · trivial

theorem fair_tableSymbol (c : Char) : (tableSymbol c).Fair := by
  unfold tableSymbol
  split
  · next h =>
      intro _
      simp only [Bool.or_eq_true, beq_iff_eq] at h
      rcases h with (rfl | rfl) | rfl <;> decide +kernel
  · exact Symbol.fair_ofChar c

theorem fair_pageSymbol (upper : Array Char) (gaps : List Char) (b : UInt8) :
    (pageSymbol upper gaps b).Fair := by
  unfold pageSymbol
  dsimp only
  split
  · split
    · trivial
    · exact Symbol.fair_ofChar _
  · split
    · split
      · trivial
      · exact Symbol.fair_ofChar _
    · trivial

theorem fair_joinBits (first : Nat) (rest : List UInt8) : ∀ s ∈ joinBits first rest, s.Fair := by
  intro s hs
  rcases List.mem_cons.mp hs with rfl | hs
  · split
    · exact Symbol.fair_ofChar _
    · trivial
  · obtain ⟨_, -, rfl⟩ := List.mem_map.mp hs
    trivial

theorem fair_partialSymbols (rest : List UInt8) : ∀ s ∈ partialSymbols rest, s.Fair := by
  intro s hs
  rcases List.mem_cons.mp hs with rfl | hs
  · trivial
  · obtain ⟨_, -, rfl⟩ := List.mem_map.mp hs
    trivial

theorem fair_decodeUtf8 (bytes : List UInt8) : ∀ s ∈ decodeUtf8 bytes, s.Fair := by
  have invalid : ∀ leading, (Symbol.invalid leading).Fair := fun _ => trivial
  have cut : Symbol.partialChar.Fair := trivial
  have ascii : ∀ a, (asciiSymbol a).Fair := fun _ => Symbol.fair_ofChar _
  fun_induction decodeUtf8 bytes with grind [fair_joinBits, fair_partialSymbols]

theorem fair_decodeUnits (units : List Nat) : ∀ s ∈ decodeUnits units, s.Fair := by
  have invalid : ∀ leading, (Symbol.invalid leading).Fair := fun _ => trivial
  have cut : Symbol.partialChar.Fair := trivial
  have more : Symbol.more.Fair := trivial
  fun_induction decodeUnits units with grind [fair_tableSymbol, Symbol.fair_ofChar]

/-- **In every encoding**, symbols give a role in names to the characters of names alone. -/
theorem Encoding.fair_decode (e : Encoding) (bytes : List UInt8) :
    ∀ s ∈ e.decode bytes, s.Fair := by
  intro s hs
  cases e with
  | utf8 => exact fair_decodeUtf8 bytes s hs
  | utf16 littleEndian =>
      rcases List.mem_append.mp hs with hs | hs
      · exact fair_decodeUnits _ s hs
      · split at hs
        · rw [List.mem_singleton.mp hs]
          trivial
        · cases hs
  | latin1 =>
      obtain ⟨b, -, rfl⟩ := List.mem_map.mp hs
      exact fair_tableSymbol _
  | ascii =>
      obtain ⟨b, -, rfl⟩ := List.mem_map.mp hs
      split
      · exact Symbol.fair_ofChar _
      · trivial
  | page upper gaps =>
      obtain ⟨b, -, rfl⟩ := List.mem_map.mp hs
      exact fair_pageSymbol upper gaps b

/-! ### Results of steps -/

/-- A problem with an encoding quotes a name. -/
def EncodingProblem.Named : EncodingProblem → Prop
  | .unknown name | .notText name | .undefinedMapping name | .strictOnly name =>
    IsName name.toList
  | .multiByte | .asciiOnly => True

/-- What a fault says as it is written in the document is a name. -/
def Fault.Named : Fault → Prop
  | .doctype name _ _ => IsName name.toList
  | .encoding problem => problem.Named
  | .malformed .. => True

/-- A result has a property, or it is a fault that quotes only names. -/
def Gives {α : Type} (P : α → Prop) : Except Fault α → Prop
  | .ok a => P a
  | .error f => f.Named

/-- Results of one step after the other. -/
theorem Gives.bind {α β : Type} {P : α → Prop} {Q : β → Prop} {x : Except Fault α}
    {f : α → Except Fault β} (h : Gives P x) (next : ∀ a, P a → Gives Q (f a)) :
    Gives Q (x >>= f) := by
  cases x with
  | error fault => exact h
  | ok a => exact next a h

@[simp] theorem gives_malformed {α : Type} {P : α → Prop} (flaw : Flaw) (p : Position) :
    Gives P (.error (.malformed flaw p)) := trivial

@[simp] theorem gives_throw_malformed_bind {α β : Type} {P : β → Prop} (flaw : Flaw)
    (p : Position) (f : α → Except Fault β) :
    Gives P (throw (.malformed flaw p) >>= f) := trivial

/-! ### Start tags -/

theorem gives_resolvePart (p : Position) (part : ValuePart) :
    Gives (fun _ => True) (part.resolve p) := by
  unfold ValuePart.resolve
  split
  · trivial
  · trivial
  · trivial
  · split <;> trivial

theorem gives_mapM_resolvePart (p : Position) (parts : List ValuePart) :
    Gives (fun _ => True) (parts.mapM (·.resolve p)) := by
  induction parts with
  | nil => trivial
  | cons part rest ih =>
      rw [List.mapM_cons]
      exact (gives_resolvePart p part).bind fun _ _ => ih.bind fun _ _ => trivial

theorem gives_readAttributes (p : Position) (seen : List (List Char)) (scope : Scope)
    (attributes : List RawAttribute) :
    Gives (fun _ => True) (readAttributes p seen scope attributes) := by
  induction attributes generalizing seen scope with
  | nil => trivial
  | cons a rest ih =>
      rw [readAttributes]
      split
      · trivial
      · refine (gives_mapM_resolvePart p a.value).bind fun chars _ => ?_
        dsimp only
        split
        · split
          · trivial
          · exact ih _ _
        · exact (ih _ _).bind fun _ _ => trivial

theorem gives_expandAttributes (p : Position) (scope : Scope) (done : List ExpandedName)
    (attributes : List (List Char × String)) :
    Gives (fun _ => True) (expandAttributes p scope done attributes) := by
  induction attributes generalizing done with
  | nil => trivial
  | cons a rest ih =>
      rw [expandAttributes]
      split
      · exact (ih _).bind fun _ _ => trivial
      · split
        · trivial
        · dsimp only
          split
          · trivial
          · exact (ih _).bind fun _ _ => trivial

theorem gives_expandName (p : Position) (scope : Scope) {name : List Char} (h : IsName name) :
    Gives (fun expanded => IsName expanded.localName.toList) (expandName p scope name) := by
  unfold expandName
  split
  · simpa [Gives] using h
  · next label rest hsplit =>
      split
      · trivial
      · simpa [Gives] using h.of_splitLabel hsplit

/-- What a start tag means has a local name made of the characters of its name. -/
theorem gives_resolve (scope : Scope) {tag : RawTag} (h : IsName tag.name) :
    Gives (fun parts => IsName parts.2.1.localName.toList) (tag.resolve scope) := by
  rw [RawTag.resolve]
  refine (gives_readAttributes _ _ _ _).bind fun read _ => ?_
  refine (gives_expandAttributes _ _ _ _).bind fun attributes _ => ?_
  exact (gives_expandName _ _ h).bind fun name hname => hname

/-! ### The invariant of reading -/

/-- The name of a document type is one. -/
def DoctypeStage.Named : DoctypeStage → Prop
  | .awaitsName => True
  | .named n | .awaitsPublicId n | .awaitsSystemId n _ | .identified n _ _ => IsName n.toList

/-- The local name of an element is one. -/
abbrev Element.Named (e : Element) : Prop := IsName e.name.localName.toList

/-- The names a reader keeps of what it has read. -/
def Phase.Named : Phase → Prop
  | .start | .prolog => True
  | .doctype stage => stage.Named
  | .inside innermost outer => ∀ e ∈ innermost :: outer, IsName e.name.localName.toList
  | .epilog root => root.Named

/-- The name a reader keeps of the token it is in, if that could become the name of a document
type. -/
@[simp] def Mode.Named : Mode → Prop
  | .word _ name | .wordColon name => IsName name
  | _ => True

/-- **The invariant of reading.** All names that can come out of a reader are made of characters of
names. -/
structure Reader.Named (r : Reader) : Prop where
  phase : r.phase.Named
  mode : r.mode.Named
  tag : IsName r.tag.name

namespace Reader

variable {r : Reader} {s : Symbol}

theorem named_initial (p : Position) (encoding : Encoding) : (initial p encoding).Named :=
  ⟨trivial, trivial, isName_nil⟩

/-! ### Where only the mode changes -/

@[simp] theorem gives_failHere (flaw : Flaw) : Gives Named (r.failHere flaw) := trivial

@[simp] theorem gives_failToken (flaw : Flaw) : Gives Named (r.failToken flaw) := trivial

@[simp] theorem gives_stepFault : Gives Named (r.stepFault s) := by
  unfold stepFault
  split <;> simp

@[simp] theorem Named.gives_ok_iff (h : r.Named) {position tokenStart place : Position}
    {mode : Mode} {current : RawAttribute} {tableEnd : Nat} :
    Gives Named (.ok ⟨position, tokenStart, place, r.phase, mode, r.tag, current, tableEnd⟩) ↔
      mode.Named :=
  ⟨Named.mode, fun hm => ⟨h.phase, hm, h.tag⟩⟩

@[simp] theorem Named.gives_goTo_iff (h : r.Named) {mode : Mode} :
    Gives Named (r.goTo mode) ↔ mode.Named := h.gives_ok_iff

@[simp] theorem Named.gives_beginToken_iff (h : r.Named) {mode : Mode} :
    Gives Named (r.beginToken mode) ↔ mode.Named := h.gives_ok_iff

@[simp] theorem Named.gives_addPart_iff (h : r.Named) {part : ValuePart} {mode : Mode} :
    Gives Named (r.addPart part mode) ↔ mode.Named := h.gives_ok_iff

@[simp] theorem Named.gives_acceptAttribute (h : r.Named) : Gives Named (.ok r.acceptAttribute) :=
  ⟨h.phase, trivial, h.tag⟩

@[simp] theorem Named.gives_tag_iff (h : r.Named) {c : Char} {mode : Mode} :
    Gives Named (.ok { r with tag := { r.tag with name := c :: r.tag.name }, mode := mode }) ↔
      isNameChar c = true ∧ mode.Named :=
  ⟨fun h' => ⟨(isName_cons.mp h'.tag).1, h'.mode⟩,
    fun ⟨hc, hm⟩ => ⟨h.phase, hm, isName_cons.mpr ⟨hc, h.tag⟩⟩⟩

/-- Where a token begins does not matter. -/
theorem Named.at (h : r.Named) (tokenStart place : Position) :
    Named { r with tokenStart := tokenStart, place := place } :=
  ⟨h.phase, h.mode, h.tag⟩

theorem named_rest : r.rest.Named := by
  unfold rest
  split <;> trivial

/-! ### Tokens outside of elements -/

/-- A name outside of elements may become that of a document type. -/
theorem Named.acceptWord (h : r.Named) {name : List Char} (hn : IsName name) (kind : WordKind) :
    Gives Named (r.accept (.word kind name)) := by
  obtain ⟨phase, mode, tag⟩ := h
  unfold Reader.accept
  split
  · trivial
  · next stage hstage =>
      rw [hstage] at phase
      split
      all_goals simp_all
      · exact ⟨by simpa [Phase.Named, DoctypeStage.Named] using hn, trivial, tag⟩
      · exact ⟨by simpa [Phase.Named, DoctypeStage.Named] using hn, trivial, tag⟩
      · exact ⟨phase, trivial, tag⟩
      · exact ⟨phase, trivial, tag⟩
  · simp

/-- Another token becomes no name. -/
theorem Named.accept (h : r.Named) {token : Outer} (ht : ∀ kind name, token ≠ .word kind name) :
    Gives Named (r.accept token) := by
  obtain ⟨phase, mode, tag⟩ := h
  unfold Reader.accept
  split
  · trivial
  · next stage hstage =>
      rw [hstage] at phase
      split
      all_goals simp_all
      · exact phase
      · exact phase
      · split
        · exact ⟨phase, trivial, tag⟩
        · trivial
      · exact ⟨phase, trivial, tag⟩
      · exact phase
      · exact phase
  · split
    · exact ⟨trivial, trivial, tag⟩
    · simp
    · simp

theorem Named.acceptRemark (h : r.Named) : Gives Named r.acceptRemark := by
  unfold Reader.acceptRemark
  split
  · trivial
  · exact ⟨trivial, trivial, h.tag⟩
  · exact h.gives_goTo_iff.mpr named_rest

theorem Named.acceptInstruction (h : r.Named) (name body : List Char) :
    Gives Named (r.acceptInstruction name body) := by
  unfold Reader.acceptInstruction
  split
  · unfold acceptDeclaration
    split
    · exact ⟨trivial, trivial, h.tag⟩
    · trivial
    · trivial
  · exact h.acceptRemark

/-- A name begins with a character that has a role in names, or with a colon. -/
theorem Named.stepBetween (h : r.Named) (hs : s.Fair) : Gives Named (r.stepBetween s) := by
  unfold Reader.stepBetween
  split
  · exact h
  · trivial
  · trivial
  · trivial
  · split
    · split
      · exact ⟨trivial, trivial, h.tag⟩
      · simp [h]
    · have here := h.at r.position r.position
      dsimp only
      split
      case h_14 => split <;> simp_all [Symbol.Fair]
      all_goals simp [here, here.accept]

/-! ### Elements -/

/-- The elements that are open, the innermost one first. -/
def openElements (r : Reader) : List OpenElement :=
  match r.phase with
  | .inside top outer => top :: outer
  | _ => []

theorem Named.openElements (h : r.Named) :
    ∀ o ∈ r.openElements, IsName o.name.localName.toList := by
  have phase := h.phase
  unfold Reader.openElements
  split
  · next top outer hphase =>
      rw [hphase] at phase
      exact phase
  · exact fun o ho => absurd ho List.not_mem_nil

theorem Named.addElement {e : Element} {around : List OpenElement} (h : r.Named) (he : e.Named)
    (outer : ∀ o ∈ around, IsName o.name.localName.toList) :
    Gives Named (r.addElement e around) := by
  cases around with
  | nil => exact ⟨he, trivial, h.tag⟩
  | cons top rest =>
      refine ⟨?_, trivial, h.tag⟩
      intro o ho
      rcases List.mem_cons.mp ho with rfl | ho
      · exact outer top List.mem_cons_self
      · exact outer o (List.mem_cons_of_mem _ ho)

/-- A start tag is resolved in the scope of the innermost element that is open. -/
theorem acceptTag_eq (r : Reader) (isEmpty : Bool) :
    r.acceptTag isEmpty = (do
      let (scope, name, attributes) ←
        RawTag.resolve ((r.openElements.head?.map OpenElement.scope).getD Scope.initial)
          ⟨r.tag.name.reverse, r.tokenStart, r.tag.attributes.reverse⟩
      if isEmpty then r.addElement (.node name attributes []) r.openElements
      else
        return { r with
          phase := .inside ⟨r.tag.name.reverse, name, attributes, scope, []⟩ r.openElements
          mode := .text }) := rfl

theorem Named.acceptTag (h : r.Named) (isEmpty : Bool) : Gives Named (r.acceptTag isEmpty) := by
  rw [acceptTag_eq]
  refine (gives_resolve _ (isName_reverse.mpr h.tag)).bind ?_
  intro parts hname
  dsimp only
  split
  · exact h.addElement hname h.openElements
  · refine ⟨?_, trivial, h.tag⟩
    intro o ho
    rcases List.mem_cons.mp ho with rfl | ho
    · exact hname
    · exact h.openElements o ho

theorem Named.acceptEnd (h : r.Named) (name : List Char) : Gives Named (r.acceptEnd name) := by
  have phase := h.phase
  unfold Reader.acceptEnd
  split
  · next top outer hphase =>
      rw [hphase] at phase
      split
      · exact h.addElement (phase top List.mem_cons_self)
          fun o ho => phase o (List.mem_cons_of_mem _ ho)
      · trivial
  · trivial

theorem Named.acceptReference (h : r.Named) (quote : Option Char) (part : ValuePart) :
    Gives Named (r.acceptReference quote part) := by
  unfold Reader.acceptReference
  split
  · simp [h]
  · exact (gives_resolvePart _ _).bind fun _ _ => by simp [h]

/-! ### Steps inside a token -/

theorem Named.stepText (h : r.Named) : Gives Named (r.stepText s) := by
  unfold Reader.stepText
  split <;> simp [h]

theorem Named.stepCdataOpen (h : r.Named) (expected : List Char) (wrong : Option Position) :
    Gives Named (r.stepCdataOpen expected wrong s) := by
  unfold Reader.stepCdataOpen
  dsimp only
  split <;> simp [h]

theorem Named.stepCdata (h : r.Named) : Gives Named (r.stepCdata s) := by
  unfold Reader.stepCdata
  split <;> simp [h]

theorem Named.stepComment (h : r.Named) : Gives Named (r.stepComment s) := by
  unfold Reader.stepComment
  split <;> simp [h]

theorem Named.stepInstruction (h : r.Named) (name body : List Char) :
    Gives Named (r.stepInstruction name body s) := by
  unfold Reader.stepInstruction
  split <;> simp [h]

/-- The name of a tag begins with a character that can begin a name. -/
theorem Named.stepLess (h : r.Named) (hs : s.Fair) : Gives Named (r.stepLess s) := by
  unfold Reader.stepLess
  dsimp only
  repeat' split
  case h_6 => exact ⟨h.phase, trivial, by simp_all [Symbol.Fair]⟩
  all_goals simp [h]

theorem Named.stepLessBang (h : r.Named) : Gives Named (r.stepLessBang s) := by
  unfold Reader.stepLessBang
  repeat' split
  all_goals simp [h, h.accept]

/-- The name of a tag goes on with characters that have a role in names, and one colon. -/
theorem Named.stepTag (h : r.Named) (hs : s.Fair) (mode : Mode) :
    Gives Named (r.stepTag s mode) := by
  unfold Reader.stepTag
  repeat' split
  all_goals simp_all [Symbol.Fair, h.acceptTag]

theorem Named.stepReference (h : r.Named) (mode : Mode) :
    Gives Named (r.stepReference s mode) := by
  unfold Reader.stepReference
  repeat' split
  all_goals simp [h, h.acceptReference]

theorem Named.stepPercent (h : r.Named) : Gives Named (r.stepPercent s) := by
  unfold Reader.stepPercent
  repeat' split
  all_goals simp [h, h.accept]

/-- Outside of elements a token is taken when the next one begins. -/
theorem Named.stepOuter (h : r.Named) (hs : s.Fair) {mode : Mode} (hm : mode.Named) :
    Gives Named (r.stepOuter s mode) := by
  have token : ∀ token : Outer, (∀ kind name, token ≠ .word kind name) →
      Gives Named (r.acceptThen token s) :=
    fun _ ht => (h.accept ht).bind fun _ h' => h'.stepBetween hs
  have word : ∀ kind name, IsName name → Gives Named (r.acceptThen (.word kind name) s) :=
    fun kind _ hn => (h.acceptWord hn kind).bind fun _ h' => h'.stepBetween hs
  have declaration : ∀ name, Gives Named (r.accept (.declaration name) >>= fun r' =>
      Reader.stepPercent { r' with tokenStart := r.place } s) :=
    fun _ => (h.accept (by simp)).bind fun r' h' => (h'.at r.place r'.place).stepPercent
  unfold Reader.stepOuter
  repeat' split
  all_goals simp_all [Symbol.Fair, h.accept, h.stepPercent]

/-! ### Steps -/

theorem Named.stepMode (h : r.Named) (hs : s.Fair) : Gives Named (r.stepMode s) := by
  have outer := h.stepOuter hs h.mode
  unfold Reader.stepMode
  repeat' split
  all_goals simp_all [h.stepBetween hs, h.stepText, h.stepLess hs, h.stepLessBang, h.stepComment,
    h.acceptRemark, h.acceptInstruction, h.stepInstruction, h.stepCdataOpen, h.stepCdata,
    h.acceptEnd, h.stepReference, h.stepTag hs]

theorem Named.atHalfUnit (h : r.Named) : r.atHalfUnit.Named := by
  have mode := h.mode
  unfold Reader.atHalfUnit
  split
  · next name hmode =>
      rw [hmode] at mode
      exact ⟨h.phase, mode, h.tag⟩
  · exact h

/-- The document element that has been read has a name. -/
theorem Named.of_epilog (h : r.Named) {root : Element} (hphase : r.phase = .epilog root) :
    root.Named := by
  have phase := h.phase
  rw [hphase] at phase
  exact phase

/-- The document element that a reader ends with has a name. -/
theorem Named.finish (h : r.Named) : Gives Element.Named r.finish := by
  have mode := h.mode
  unfold Reader.finish
  dsimp only
  split
  case h_1 | h_2 | h_3 | h_4 | h_5 =>
    split
    · next hphase => exact h.of_epilog hphase
    · trivial
  case h_11 hmode =>
    rw [hmode] at mode
    refine (h.acceptWord mode _).bind fun r' h' => ?_
    split
    · next hphase => exact h'.of_epilog hphase
    · trivial
  case h_12 | h_13 | h_14 | h_15 =>
    refine (h.accept (by simp)).bind fun r' h' => ?_
    split
    · next hphase => exact h'.of_epilog hphase
    · trivial
  all_goals trivial

theorem Named.stepMore (h : r.Named) : Gives Named r.stepMore := by
  unfold Reader.stepMore
  split
  · exact h.stepCdataOpen _ _
  · exact h

/-- **One symbol** keeps the invariant, or gives a fault that quotes only names. -/
theorem Named.step (h : r.Named) (hs : s.Fair) : Gives Named (r.step s) := by
  have moved : ∀ r' : Reader, r'.Named →
      Gives Named (.ok { r' with position := r.position.next s }) :=
    fun _ h' => ⟨h'.phase, h'.mode, h'.tag⟩
  have taken : Gives Named (if s == .more then
      r.stepMore >>= fun r' => .ok { r' with position := r.position.next s }
    else r.stepMode s >>= fun r' => .ok { r' with position := r.position.next s }) := by
    split
    · exact h.stepMore.bind moved
    · exact (h.stepMode hs).bind moved
  unfold Reader.step
  dsimp only
  split
  · exact h.atHalfUnit.finish.bind fun _ _ => taken
  · exact taken

/-- The symbols up to the end of a declaration keep the invariant, and what follows is the rest of
them. -/
theorem Named.runToDeclaration {symbols : List Symbol} (h : r.Named) (hs : ∀ s ∈ symbols, s.Fair) :
    Gives (fun parts => parts.1.Named) (r.runToDeclaration symbols) := by
  induction symbols generalizing r with
  | nil => exact h
  | cons s rest ih =>
      rw [Reader.runToDeclaration]
      refine (h.step (hs s List.mem_cons_self)).bind ?_
      intro r' h'
      split
      · exact h'
      · exact ih h' fun t ht => hs t (List.mem_cons_of_mem _ ht)

/-- Reading symbols to the end gives an element with a name. -/
theorem Named.run {symbols : List Symbol} (h : r.Named) (hs : ∀ s ∈ symbols, s.Fair) :
    Gives Element.Named (r.run symbols) := by
  have steps : Gives Named (symbols.foldlM Reader.step r) := by
    induction symbols generalizing r with
    | nil => exact h
    | cons s rest ih =>
        rw [List.foldlM_cons]
        exact (h.step (hs s List.mem_cons_self)).bind fun r' h' =>
          ih h' fun t ht => hs t (List.mem_cons_of_mem _ ht)
  exact steps.bind fun _ h' => h'.finish

end Reader

/-! ### Documents -/

/-- The value of a setting is made of the characters that may stand in one. -/
theorem isSettingChar_of_readSettingValue {name : List Char} {nameLeft : Nat} {cs : List Char}
    {setting : Setting} (h : readSettingValue name nameLeft cs = .ok setting) :
    ∀ c ∈ setting.value, isSettingChar c = true := by
  unfold readSettingValue at h
  split at h
  · cases h
  · split at h
    · cases h
    · dsimp only at h
      split at h
      · split at h
        · cases h
          exact fun c hc => List.mem_takeWhile_imp hc
        · cases h
      · cases h

theorem isSettingChar_of_readSetting {cs : List Char} {setting : Setting}
    (h : readSetting cs = .ok (some setting)) : ∀ c ∈ setting.value, isSettingChar c = true := by
  unfold readSetting at h
  dsimp only at h
  split at h
  · cases h
  · split at h
    · cases h
    · split at h
      · cases h
      · split at h
        · split at h
          · cases h
          · cases read : readSettingValue _ _ _ with
            | error left =>
                rw [read] at h
                cases h
            | ok found =>
                rw [read] at h
                cases h
                exact isSettingChar_of_readSettingValue read
        · cases h

/-- The name of an encoding in a declaration is made of characters of names. -/
theorem isName_of_readDeclaration {body : List Char} {name : String} {left : Nat}
    (h : readDeclaration body = .ok (some (name, left))) : IsName name.toList := by
  unfold readDeclaration at h
  dsimp only at h
  obtain ⟨version, -, h⟩ := bind_eq_ok_iff.mp h
  split at h
  · split at h
    · cases h
    · obtain ⟨second, hsecond, h⟩ := bind_eq_ok_iff.mp h
      split at h
      · next second =>
          split at h
          · split at h
            · cases h
            · obtain ⟨third, -, h⟩ := bind_eq_ok_iff.mp h
              have named : name = String.ofList second.value := by
                split at h
                · obtain ⟨_, -, h⟩ := bind_eq_ok_iff.mp h
                  cases h
                  rfl
                · cases h
                  rfl
              rw [named, String.toList_ofList]
              exact fun c hc =>
                isNameChar_of_isSettingChar (isSettingChar_of_readSetting hsecond c hc)
          · obtain ⟨_, -, h⟩ := bind_eq_ok_iff.mp h
            cases h
      · cases h
  · cases h

/-- The only problem with an encoding from the tables is that it has several bytes a character. -/
theorem multiByte_of_tableEncoding? {key : String} {problem : EncodingProblem}
    (h : tableEncoding? key = some (.unusable problem)) : problem = .multiByte := by
  unfold tableEncoding? at h
  repeat' split at h
  case isFalse.isFalse.isFalse.isFalse.isFalse =>
    obtain ⟨page, -, unusable⟩ := Option.map_eq_some_iff.mp h
    cases unusable
  all_goals cases h
  rfl

/-- A problem with an encoding is about the name that was asked for. -/
theorem named_of_ofName {current : Encoding} {name : String} {problem : EncodingProblem}
    (hn : IsName name.toList) (h : DeclaredEncoding.ofName current name = .unusable problem) :
    problem.Named := by
  have table : (encodingKeys name).findSome? tableEncoding? = some (.unusable problem) →
      problem.Named := by
    intro found
    obtain ⟨key, -, hkey⟩ := List.exists_of_findSome?_eq_some found
    rw [multiByte_of_tableEncoding? hkey]
    trivial
  unfold DeclaredEncoding.ofName at h
  dsimp only at h
  repeat' split at h
  case isFalse.isFalse.isFalse.isFalse.isFalse.isFalse.isFalse.isFalse.isFalse.isFalse =>
    cases found : (encodingKeys name).findSome? tableEncoding? with
    | none =>
        rw [found] at h
        cases h
        exact hn
    | some encoding =>
        rw [found] at h table
        exact table (congrArg some h)
  all_goals cases h
  · exact hn
  · exact hn
  · exact hn
  · trivial

theorem gives_declaredEncoding (start : Position) (current : Encoding) (body : List Char) :
    Gives (fun _ => True) (declaredEncoding start current body) := by
  unfold declaredEncoding
  dsimp only
  split
  · trivial
  · trivial
  · next name left hread =>
      have hn := isName_of_readDeclaration hread
      split
      · split <;> trivial
      · trivial
      · trivial
      · next problem hproblem => exact named_of_ofName hn hproblem

/-- **Names that come out of a document.** The local name of its element, and what the fault quotes
if it cannot be read, are made of characters of names. -/
theorem gives_readDocument (bytes : List UInt8) : Gives Element.Named (readDocument bytes) := by
  unfold readDocument
  dsimp only
  split
  · trivial
  · refine ((Reader.named_initial _ _).runToDeclaration (Encoding.fair_decode _ _)).bind ?_
    rintro ⟨reader, rest⟩ hreader
    dsimp only
    split
    · refine (gives_declaredEncoding _ _ _).bind fun declared _ => ?_
      exact Reader.Named.run ⟨hreader.phase, trivial, hreader.tag⟩ (Encoding.fair_decode _ _)
    · exact hreader.finish

end ProcessStubs.Markup
