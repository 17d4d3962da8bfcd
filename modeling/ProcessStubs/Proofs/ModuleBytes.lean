import ProcessStubs.Document.Read
import ProcessStubs.FileTree.ReadText
import ProcessStubs.Proofs.Frozen
import ProcessStubs.Proofs.ModuleLines

/-!
# The bytes of a module

The bytes of a module can be read in two ways. Read as a text, they give the text of the module
back, since the name of a document is all that could bring a carriage return into it. Read as a
document, they are refused at the second character.

## Main results

* `Settings.not_mem_moduleText`: no module holds a carriage return.
* `Stub.ofBytes_moduleText`: no module is a process document.
-/

namespace ProcessStubs

open Text Markup

/-! ### Carriage returns -/

namespace Text

/-- A text of one line holds no carriage return. -/
theorem OneLine.not_mem_return {s : String} (h : OneLine s) : '\r' ∉ s.toList :=
  fun hmem => absurd (h '\r' hmem) (by decide)

/-- A character that is in none of the pieces is not in the text that is joined from them. -/
theorem not_mem_joinWith {c : Char} {sep : String} (hsep : c ∉ sep.toList) {l : List String}
    (h : ∀ s ∈ l, c ∉ s.toList) : c ∉ (joinWith sep l).toList := by
  induction l with
  | nil => simp [joinWith]
  | cons s rest ih =>
      obtain ⟨first, others⟩ := List.forall_mem_cons.mp h
      cases rest with
      | nil => exact first
      | cons t rest =>
          rw [joinWith]
          · simp [first, hsep, ih others]
          · exact List.cons_ne_nil t rest

end Text

namespace Stub

variable {package : String} {source : Option Path}

/-- The header of a module holds a carriage return only if the name of its source does. -/
theorem not_mem_headerLine (h : ∀ p ∈ source, '\r' ∉ p.name.toList) :
    '\r' ∉ (headerLine source).toList := by
  have version : OneLine "# Generated by bpmngen 0.1.0" := by decide
  have stop : OneLine ". Do not edit." := by decide
  have origin : '\r' ∉ ((source.map fun p => " from " ++ p.name).getD "").toList := by
    cases source with
    | none => simp
    | some p => simpa using h p rfl
  unfold headerLine
  simp only [String.toList_append, List.mem_append, version.not_mem_return, stop.not_mem_return,
    origin, or_self, not_false_eq_true]

/-- Where lines are a header and lines of one line each, no module of them holds a carriage
return. -/
theorem not_mem_moduleText {u : Stub} {header : String} {lines : List String}
    (template : u.moduleLines = header :: lines) (first : '\r' ∉ header.toList)
    (others : ∀ l ∈ lines, OneLine l) : '\r' ∉ u.moduleText.toList := by
  have joined : '\r' ∉ (joinWith "\n" u.moduleLines).toList := by
    rw [template]
    refine not_mem_joinWith (by simp) ?_
    exact List.forall_mem_cons.mpr ⟨first, fun l hl => (others l hl).not_mem_return⟩
  rw [moduleText, String.toList_append, List.mem_append]
  exact not_or.mpr ⟨joined, by simp⟩

/-- Only the header of a service's module is about its source. -/
theorem serviceLines_eq_cons (runtime : RuntimeReference) (source : Option Path)
    (documentation typeName literal : String) :
    serviceLines runtime source documentation typeName literal =
      headerLine source :: (serviceLines runtime none documentation typeName literal).tail := rfl

/-- Only the header of an interface's module is about its source. -/
theorem interfaceLines_eq_cons (source : Option Path)
    (documentation typeName method : String) :
    interfaceLines source documentation typeName method =
      headerLine source :: (interfaceLines none documentation typeName method).tail := rfl

/-- The module of a service holds no carriage return if the name of its source does not. -/
theorem not_mem_moduleText_ofProcess {reference : String} {runtime : RuntimeReference}
    (hr : runtimeOf reference = .ok runtime) (h : ∀ p ∈ source, '\r' ∉ p.name.toList)
    {id displayName : String}
    (accepted : (ofProcess package runtime source id displayName).unusableName? = none) :
    '\r' ∉ (ofProcess package runtime source id displayName).moduleText.toList := by
  obtain ⟨module, name⟩ := oneLine_of_runtimeOf hr
  have imports : ∀ i ∈ serviceImports runtime, OneLine i.moduleName ∧ OneLine i.name := by
    simp only [serviceImports, List.forall_mem_cons]
    exact ⟨by decide, by decide, ⟨module, name⟩, by simp⟩
  have header : OneLine (headerLine none) := oneLine_headerLine (by simp)
  have type : OneLine (ofProcess package runtime source id displayName).typeName :=
    oneLine_typeName accepted
  have lines := oneLine_serviceLines header (oneLine_importBlock imports) name
    (oneLine_documentation (ofProcess package runtime source id displayName)) type
    (oneLine_quoted id)
  have template := moduleLines_ofProcess package runtime source id displayName
  rw [serviceLines_eq_cons] at template
  exact not_mem_moduleText template (not_mem_headerLine h) fun l hl =>
    lines l (List.mem_of_mem_tail hl)

/-- The module of an interface holds no carriage return if the name of its source does not. -/
theorem not_mem_moduleText_ofBeanCall (h : ∀ p ∈ source, '\r' ∉ p.name.toList) {call : BeanCall}
    (accepted : (ofBeanCall package source call).unusableName? = none) :
    '\r' ∉ (ofBeanCall package source call).moduleText.toList := by
  have header : OneLine (headerLine none) := oneLine_headerLine (by simp)
  have type : OneLine (ofBeanCall package source call).typeName := oneLine_typeName accepted
  have method : OneLine call.method := oneLine_operationName accepted List.mem_cons_self
  have lines := oneLine_interfaceLines header
    (oneLine_documentation (ofBeanCall package source call)) type method
  have template := moduleLines_ofBeanCall package source call
  rw [interfaceLines_eq_cons] at template
  exact not_mem_moduleText template (not_mem_headerLine h) fun l hl =>
    lines l (List.mem_of_mem_tail hl)

end Stub

/-- **No module holds a carriage return**, if the name of the document that it is from does not. -/
theorem Settings.not_mem_moduleText {s : Settings} {document : ProcessDocument}
    {stubs : List Stub} (made : s.stubsOf document = .ok stubs)
    (h : ∀ p ∈ document.source, '\r' ∉ p.name.toList) {u : Stub} (hu : u ∈ stubs)
    (accepted : u.unusableName? = none) : '\r' ∉ u.moduleText.toList := by
  rw [stubsOf] at made
  split at made
  · cases made
    cases hu
  · obtain ⟨runtime, hr, made⟩ := bind_eq_ok_iff.mp made
    cases made
    obtain ⟨p, -, hu⟩ := List.mem_flatMap.mp hu
    rcases List.mem_cons.mp hu with rfl | hu
    · exact Stub.not_mem_moduleText_ofProcess hr h accepted
    · obtain ⟨call, -, rfl⟩ := List.mem_map.mp hu
      exact Stub.not_mem_moduleText_ofBeanCall h accepted

/-! ### Modules as documents -/

/-- The list of bytes is that of their array. -/
theorem toList_eq_toList_data (bytes : ByteArray) : bytes.toList = bytes.data.toList := by
  have loop (i : Nat) (r : List UInt8) :
      ByteArray.toList.loop bytes i r = r.reverse ++ bytes.data.toList.drop i := by
    induction i, r using ByteArray.toList.loop.induct bytes with
    | case1 i r inside ih =>
        have length : i < bytes.data.toList.length := by simpa using inside
        have here : bytes.get! i = bytes.data.toList[i] := by
          simp only [ByteArray.get!, Array.getElem_toList]
          exact getElem!_pos bytes.data i (by simpa using inside)
        rw [ByteArray.toList.loop, if_pos inside, ih, List.drop_eq_getElem_cons length, here]
        simp
    | case2 i r outside =>
        have length : bytes.data.toList.length ≤ i := by simpa using outside
        rw [ByteArray.toList.loop, if_neg outside, List.drop_eq_nil_of_le length, List.append_nil]
  rw [ByteArray.toList, loop]
  rfl

/-- Nothing that begins with a number sign and a blank is a document. -/
theorem Markup.readDocument_of_comment (rest : List UInt8) :
    ∃ f, readDocument (0x23 :: 0x20 :: 0x47 :: rest) = .error f := by
  have decided : Encoding.isUndecided (0x23 :: 0x20 :: 0x47 :: rest) = false := rfl
  have encoding : Encoding.detect (0x23 :: 0x20 :: 0x47 :: rest) = (.utf8, 0) := rfl
  have symbols : Encoding.utf8.decode (0x23 :: 0x20 :: 0x47 :: rest) =
      asciiSymbol 0x23 :: asciiSymbol 0x20 :: decodeUtf8 (0x47 :: rest) := by
    simp [Encoding.decode, decodeUtf8]
  obtain ⟨r, first, mode⟩ : ∃ r, (Reader.initial .start .utf8).step (asciiSymbol 0x23) = .ok r ∧
      r.mode = .poundOpen := ⟨_, rfl, rfl⟩
  have on : r.isDeclared = false := by rw [Reader.isDeclared, mode]
  -- The number sign begins a token that a blank cannot go on with.
  have second : r.step (asciiSymbol 0x20) = .error (.malformed .invalidToken r.position) := by
    rw [show asciiSymbol 0x20 = .char ' ' .other by decide +kernel]
    simp [Reader.step, Reader.stepMode, mode, Reader.stepOuter, Reader.stepFault, Reader.failHere,
      bind, Except.bind]
  rw [readDocument, decided, encoding]
  simp only [List.drop_zero, symbols, if_true, Reader.runToDeclaration, first]
  simp [bind, Except.bind, on, second]

/-- A module begins as a comment does. -/
theorem Stub.exists_moduleText (u : Stub) :
    ∃ more, u.moduleText.toList = ['#', ' ', 'G'] ++ more := by
  obtain ⟨more, header⟩ : ∃ more, u.header.toList = ['#', ' ', 'G'] ++ more := by
    unfold Stub.header
    have start : "# Generated by bpmngen ".toList =
        ['#', ' ', 'G'] ++ "enerated by bpmngen ".toList := by simp
    simp only [String.toList_append, start, List.append_assoc]
    exact ⟨_, rfl⟩
  rw [moduleText, moduleLines]
  simp only [List.cons_append]
  rw [joinWith]
  · simp only [String.toList_append, header, List.append_assoc]
    exact ⟨_, rfl⟩
  · simp

/-- **No module is a process document.** -/
theorem Stub.ofBytes_moduleText (u : Stub) (source : Option Path) :
    ∃ f, ProcessDocument.ofBytes source u.moduleText.toUTF8 = .error (.markup f) := by
  obtain ⟨more, text⟩ := u.exists_moduleText
  have bytes : u.moduleText.toUTF8.toList = 0x23 :: 0x20 :: 0x47 :: more.utf8Encode.toList := by
    have encoded : u.moduleText.toUTF8 = List.utf8Encode (['#', ' ', 'G'] ++ more) := by
      rw [← text]
      simp
    have start : (List.utf8Encode ['#', ' ', 'G']).data.toList = [0x23, 0x20, 0x47] := by decide
    rw [encoded, List.utf8Encode_append, toList_eq_toList_data, toList_eq_toList_data,
      ByteArray.toList_data_append, start]
    rfl
  obtain ⟨f, refused⟩ := Markup.readDocument_of_comment more.utf8Encode.toList
  exact ⟨f, by rw [ProcessDocument.ofBytes, bytes, refused]⟩

end ProcessStubs
