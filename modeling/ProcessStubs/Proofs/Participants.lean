import ProcessStubs.Proofs.CallingTasks
import ProcessStubs.Proofs.DocumentImage

/-!
# Names from participants

A process without a name of its own is shown by that of the first participant that refers to it. The
reference and the id are attributes of different elements, and they are read differently: an id is
stripped of the blanks at its ends, and a reference is taken as it is written. So references are
compared with the stripped id, and a participant that repeats the id of a process as it is written
refers to the process exactly if there are no blanks to be stripped.

## Main definitions

* `NamedByParticipant`: the first participant that refers to an id has a name.
* `ShownBy`: what is shown for an id by the participants of a tree.

## Main results

* `Process.displayName_eq_iff`: by which name a process without a name of its own is shown.
* `ProcessDocument.displayName_of_reference`: where a participant names the process whose id it
  repeats, and where it does not.
-/

namespace ProcessStubs

open Markup Text

/-- The elements of participants in a tree, in document order. -/
def participantElements (root : Element) : List Element :=
  (root.childrenNamed (modelName "collaboration")).flatMap fun c =>
    c.childrenNamed (modelName "participant")

/-- An element is the first of the participants that refer to an id. -/
def RefersFirst (root : Element) (id : String) (participant : Element) : Prop :=
  ∃ before after, participantElements root = before ++ participant :: after ∧
    participant.plain? "processRef" = some id ∧
    ∀ earlier ∈ before, earlier.plain? "processRef" ≠ some id

/-- The first participant that refers to an id has a name, and that is not empty. -/
def NamedByParticipant (root : Element) (id name : String) : Prop :=
  ∃ participant, RefersFirst root id participant ∧ participant.plain? "name" = some name ∧ name ≠ ""

/-- What is shown for an id: the name that it is given by a participant, or else the id itself. -/
def ShownBy (root : Element) (id name : String) : Prop :=
  NamedByParticipant root id name ∨ name = id ∧ ∀ other, ¬ NamedByParticipant root id other

/-- An element has no name, or an empty one. -/
def Unnamed (e : Element) : Prop := ∀ name, e.plain? "name" = some name → name = ""

/-- The participants of a document are read from these elements. -/
theorem participantsOf_eq_map (root : Element) :
    participantsOf root = (participantElements root).map Participant.ofElement := by
  rw [participantsOf, participantElements, List.map_flatMap]

/-- The participant that is found for an id is the first one that refers to it. -/
theorem find?_participantsOf_eq_some_iff {root : Element} {id : String} {p : Participant} :
    (participantsOf root).find? (·.processRef == some id) = some p ↔
      ∃ participant, RefersFirst root id participant ∧ Participant.ofElement participant = p := by
  have reference (e : Element) : (Participant.ofElement e).processRef = e.plain? "processRef" := rfl
  simp [participantsOf_eq_map, List.find?_map, Option.map_eq_some_iff,
    List.find?_eq_some_iff_append, RefersFirst, reference, and_left_comm, and_assoc]

/-- The name that is found for an id is that of the first participant that refers to it. -/
theorem referredName_eq_some_iff {root : Element} {id name : String} :
    (((participantsOf root).find? (·.processRef == some id)).bind Participant.name).filter
        (· ≠ "") = some name ↔ NamedByParticipant root id name := by
  rw [Option.filter_eq_some_iff, decide_eq_true_eq, Option.bind_eq_some_iff]
  simp only [find?_participantsOf_eq_some_iff]
  constructor
  · rintro ⟨⟨_, ⟨participant, refers, rfl⟩, named⟩, nonempty⟩
    exact ⟨participant, refers, named, nonempty⟩
  · rintro ⟨participant, refers, named, nonempty⟩
    exact ⟨⟨_, ⟨participant, refers, rfl⟩, named⟩, nonempty⟩

/-- One participant at most names an id. -/
theorem NamedByParticipant.unique {root : Element} {id name other : String}
    (h : NamedByParticipant root id name) (h' : NamedByParticipant root id other) :
    name = other :=
  Option.some.inj ((referredName_eq_some_iff.mpr h).symm.trans (referredName_eq_some_iff.mpr h'))

/-- **By which name a process is shown** that has none of its own. -/
theorem Process.displayName_eq_iff {root : Element} {p : Process} {name : String}
    (unnamed : ∀ own, p.name = some own → own = "") :
    p.displayName (participantsOf root) = name ↔ ShownBy root p.id name := by
  have own : p.name.filter (· ≠ "") = none := nonEmpty?_eq_none_iff.mpr unnamed
  simp only [displayName, own, Option.none_or]
  cases found : (((participantsOf root).find? (·.processRef == some p.id)).bind
      Participant.name).filter (· ≠ "") with
  | some given =>
      have named := referredName_eq_some_iff.mp found
      rw [Option.getD_some]
      constructor
      · rintro rfl
        exact .inl named
      · rintro (other | ⟨-, nobody⟩)
        · exact named.unique other
        · exact absurd named (nobody given)
  | none =>
      have nobody (other : String) : ¬ NamedByParticipant root p.id other := by
        intro named
        cases found.symm.trans (referredName_eq_some_iff.mpr named)
      rw [Option.getD_none]
      constructor
      · rintro rfl
        exact .inr ⟨rfl, nobody⟩
      · rintro (named | ⟨rfl, -⟩)
        · exact absurd named (nobody name)
        · rfl

/-- The process of an element has its stripped id, and its name as it is. -/
theorem Process.of_ofElement {e : Element} {p : Process} {id : String}
    (h : Process.ofElement e = .ok p) (hid : e.plain? "id" = some id) :
    p.id = strip id ∧ p.name = e.plain? "name" := by
  rw [ofElement, hid] at h
  split at h
  · cases h
  · cases h
    exact ⟨rfl, rfl⟩

/-! ### References as they are written -/

/-- The tree of a process without a name, and of one participant that has one. -/
def participantTree (id reference name : String) : Element :=
  .node (modelName "definitions") [] [
    .node (modelName "process") [plainAttribute "id" id] [],
    .node (modelName "collaboration") [] [
      .node (modelName "participant")
        [plainAttribute "name" name, plainAttribute "processRef" reference] []]]

section

variable (source : Option Path) {id reference name : String}

/-- This tree declares one process and one participant, unless the id is blank. -/
theorem ofTree_participantTree (present : strip id ≠ "") :
    ProcessDocument.ofTree source (.ok (participantTree id reference name)) =
      .ok ⟨[⟨strip id, none, true, []⟩], [⟨some name, some reference⟩], source⟩ := by
  have declared : Process.ofElement (.node (modelName "process") [plainAttribute "id" id] []) =
      .ok ⟨strip id, none, true, []⟩ := if_neg present
  have processes : ((participantTree id reference name).childrenNamed
      (modelName "process")).mapM Process.ofElement = .ok [⟨strip id, none, true, []⟩] :=
    mapM_eq_ok_iff.mpr (.cons declared .nil)
  exact mapError_eq_ok_iff.mpr (ProcessDocument.ofElement_eq_ok_iff.mpr ⟨rfl, processes, rfl⟩)

/-- The participant names what it refers to. -/
theorem namedByParticipant_participantTree (id reference : String) (named : name ≠ "") :
    NamedByParticipant (participantTree id reference name) reference name :=
  ⟨_, ⟨[], [], rfl, rfl, by simp⟩, rfl, named⟩

/-- A process whose id has blanks at an end is shown by what is left of the id, even if the one
participant repeats the id as it is written. -/
theorem displayName_participantTree (name : String) (present : strip id ≠ "")
    (blanks : strip id ≠ id) :
    ∃ d p, ProcessDocument.ofTree source (.ok (participantTree id id name)) = .ok d ∧
      d.processes = [p] ∧ p.displayName d.participants = strip id := by
  refine ⟨_, _, ofTree_participantTree source present, rfl, ?_⟩
  simp [Process.displayName, blanks.symm]

/-- **Participants that repeat an id.** A participant that is the first one to repeat the id of an
unnamed process as it is written names the process, if there are no blanks at the ends of the id.
Else the process is shown by that name only if the stripped id is, too: by another participant, or
because the name is the stripped id itself. And each id that has blanks at an end, and more than
blanks, is that of a process which is not shown by the name of its participant. -/
theorem ProcessDocument.displayName_of_reference :
    (∀ root d, ofTree source (.ok root) = .ok d →
      List.Forall₂ (fun e p => Process.ofElement e = .ok p ∧
          ∀ id name, e.plain? "id" = some id → Unnamed e → NamedByParticipant root id name →
            (strip id = id → p.displayName d.participants = name) ∧
            (strip id ≠ id →
              (p.displayName d.participants = name ↔ ShownBy root (strip id) name)))
        (root.childrenNamed (modelName "process")) d.processes) ∧
    ∀ id name, strip id ≠ "" → strip id ≠ id → name ≠ "" →
      NamedByParticipant (participantTree id id name) id name ∧
        ∃ d p, ofTree source (.ok (participantTree id id name)) = .ok d ∧ d.processes = [p] ∧
          p.displayName d.participants = strip id := by
  refine ⟨?_, fun id name present blanks named =>
    ⟨namedByParticipant_participantTree id id named,
      displayName_participantTree source name present blanks⟩⟩
  intro root d read
  obtain ⟨-, processes, heq⟩ := ofElement_eq_ok_iff.mp (mapError_eq_ok_iff.mp read)
  have participants : d.participants = participantsOf root := by rw [heq]
  refine (mapM_eq_ok_iff.mp processes).imp ?_
  intro e p declared
  refine ⟨declared, fun id name hid unnamed named => ?_⟩
  obtain ⟨stripped, own⟩ := Process.of_ofElement declared hid
  have shown : p.displayName d.participants = name ↔ ShownBy root (strip id) name := by
    rw [participants, ← stripped]
    exact Process.displayName_eq_iff (by rwa [own])
  refine ⟨fun same => ?_, fun _ => shown⟩
  rw [shown, same]
  exact .inl named

end

/-- The tree of an unnamed process to which three participants refer, in two collaborations. -/
def twoCollaborations : Element :=
  let participant (name reference : String) : Element :=
    .node (modelName "participant")
      [plainAttribute "name" name, plainAttribute "processRef" reference] []
  .node (modelName "definitions") [] [
    .node (modelName "collaboration") [] [participant "Stock" "Store"],
    .node (modelName "process") [plainAttribute "id" "Order", plainAttribute "name" ""] [],
    .node (modelName "collaboration") [] [participant "Sales" "Order", participant "Desk" "Order"]]

/-- The first one that refers to the process names it. -/
theorem ProcessDocument.displayName_of_reference_twoCollaborations :
    ∃ d p, ofTree none (.ok twoCollaborations) = .ok d ∧
      NamedByParticipant twoCollaborations "Order" "Sales" ∧ strip "Order" = "Order" ∧
      d.processes = [p] ∧ p.displayName d.participants = "Sales" := by
  have read : ofTree none (.ok twoCollaborations) = .ok ⟨[⟨"Order", some "", true, []⟩],
      [⟨some "Stock", some "Store"⟩, ⟨some "Sales", some "Order"⟩, ⟨some "Desk", some "Order"⟩],
      none⟩ := by
    rfl
  have stripped : strip "Order" = "Order" := by decide
  have named : NamedByParticipant twoCollaborations "Order" "Sales" :=
    ⟨_, ⟨[_], [_], rfl, rfl, by decide⟩, rfl, by decide⟩
  have pairs := (displayName_of_reference none).1 twoCollaborations _ read
  obtain ⟨-, shown⟩ : _ ∧ _ := by
    cases pairs with
    | cons first _ => exact first
  have unnamed : Unnamed (.node (modelName "process")
      [plainAttribute "id" "Order", plainAttribute "name" ""] []) := by
    intro name h
    cases h
    rfl
  exact ⟨_, _, read, named, stripped, rfl, (shown "Order" "Sales" rfl unnamed named).1 stripped⟩

/-- A participant that repeats the id of a process, with a blank at both ends, does not name it,
though the process has no name of its own. -/
theorem ProcessDocument.not_displayName_of_reference_blanks :
    let root := participantTree " A " " A " "Sales"
    ∃ e d p, root.childrenNamed (modelName "process") = [e] ∧ e.plain? "id" = some " A " ∧
      Unnamed e ∧ NamedByParticipant root " A " "Sales" ∧
      ofTree none (.ok root) = .ok d ∧ d.processes = [p] ∧
      p.displayName d.participants = "A" ∧ p.displayName d.participants ≠ "Sales" := by
  intro root
  have stripped : strip " A " = "A" := by decide
  have left : strip " A " ≠ "" := by decide
  have blanks : strip " A " ≠ " A " := by decide
  obtain ⟨d, p, read, only, shown⟩ := displayName_participantTree none "Sales" left blanks
  rw [stripped] at shown
  exact ⟨_, d, p, rfl, rfl, nofun, namedByParticipant_participantTree _ _ (by decide), read, only,
    shown, by rw [shown]; decide⟩

end ProcessStubs
