import ScriptGateway.Gateway.Http
import ScriptGateway.Proofs.Payload.Document
import ScriptGateway.Proofs.Payload.Writing
import ScriptGateway.Proofs.Text.Numerals

/-!
# XML bodies of answers

The payloads of responses take three forms (`Answer`, `Barrier.exists_answer`), and the XML body of
one is meant to say the same as its JSON body. Escaping sees to ampersands and angle brackets only,
so the body carries a payload exactly when its text has no characters but those that a document may
contain, and no carriage returns, which a reader takes for line ends (`Answer.carries_iff`). The
router has no other responses, so this is what can be said of all of them (`Barrier.body_carries`).
-/

set_option autoImplicit false

namespace ScriptGateway

open Markup Text

/-! ## Answers -/

/-- What a request is answered with: what its script returned, or why there is nothing to return. -/
inductive Answer
  | result (value : String)
  | error (message : String)
  | errorWithCode (message : String) (code : Option Int)
  deriving DecidableEq, Repr

namespace Answer

def payload : Answer → Payload
  | result value => .text value
  | error message => .error message
  | errorWithCode message code => .errorWithCode message code

/-- The part of an answer that may be any text. -/
def text : Answer → String
  | result value => value
  | error message => message
  | errorWithCode message _ => message

def withText (s : String) : Answer → Answer
  | result _ => result s
  | error _ => error s
  | errorWithCode _ code => errorWithCode s code

end Answer

theorem Response.exists_answer_of_ofRun {run : Except Fault Script.Run} {response : Response}
    (h : Response.ofRun run = .ok response) : ∃ a : Answer, response.payload = a.payload := by
  unfold ofRun at h
  split at h
  · cases h
    exact ⟨.result _, rfl⟩
  · cases h
    exact ⟨.errorWithCode _ _, rfl⟩
  · cases h

/-- Every response of the router, behind a barrier whose load has ended in one way or the other, has
the payload of an answer. -/
theorem Barrier.exists_answer {b : Barrier} {execute : Executor} {q : Request} {handled : Handled}
    {response : Response} (h : b.handle execute q = some handled)
    (hresponse : handled.outcome = .ok response) : ∃ a : Answer, response.payload = a.payload := by
  unfold handle at h
  split at h
  · cases h
    unfold Registries.handle at hresponse
    split at hresponse
    · exact Response.exists_answer_of_ofRun hresponse
    · cases hresponse
      exact ⟨.error _, rfl⟩
    · cases hresponse
  · cases h
    cases hresponse
    exact ⟨.error _, rfl⟩
  · cases h

/-! ## What a body says -/

/-- An element without attributes that holds a text and nothing else. -/
def Markup.Node.Holds (n : Node) (tag text : String) : Prop :=
  (∃ content, n = .element tag [] content) ∧ n.children = [] ∧ n.ownText = text

namespace Answer

/-- The number of an error as it is written, or nothing where there is none. -/
def codeText : Option Int → String
  | some n => toString n
  | none => ""

/-- The element says what the answer says: a result by its text, an error by an element for each of
its parts. -/
def Renders : Answer → Node → Prop
  | result value, n => n.Holds "result" value
  | error message, n => ∃ e, n = .element "response" [] [e] ∧ e.Holds "error" message
  | errorWithCode message code, n => ∃ e c, n = .element "response" [] [e, c] ∧
    e.Holds "error" message ∧ c.Holds "code" (codeText code)

/-- What the bytes of the XML body are read as. -/
def readXml (a : Answer) : Except ByteFault Node := readBytes (encode a.payload.toXml)

/-- The answer with its line ends made line feeds. -/
def relined (a : Answer) : Answer := a.withText (String.ofList (normalizeLines a.text.toList))

end Answer

theorem Markup.Node.ownText_cons_text (tag s : String) (nodes : List Node) :
    (Node.element tag [] (.text s :: nodes)).ownText = s ++ (Node.element tag [] nodes).ownText :=
  String.join_cons

theorem Markup.Spells.holds {nodes : List Node} {cs : List Char} (h : Spells nodes cs)
    (tag : String) : (Node.element tag [] nodes).Holds tag (String.ofList cs) := by
  have hparts : nodes.filter Node.isElement = [] ∧
      (Node.element tag [] nodes).ownText = String.ofList cs := by
    induction h with
    | nil => exact ⟨rfl, rfl⟩
    | cons s _ ih => exact ⟨ih.1, by rw [Node.ownText_cons_text, ih.2]; simp⟩
  exact ⟨⟨nodes, rfl⟩, hparts.1, hparts.2⟩

namespace Answer

theorem isDigit_of_mem_codeText {code : Option Int} {c : Char} (h : c ∈ (codeText code).toList) :
    c = '-' ∨ c.isDigit = true := by
  cases code with
  | none => cases h
  | some n =>
    rw [codeText, toList_toString_int] at h
    exact Payload.isDigit_of_mem_intDigits h

/-- A number is written in characters that stand for themselves. -/
theorem isPlain_of_mem_codeText {code : Option Int} {c : Char} (h : c ∈ (codeText code).toList) :
    Payload.isPlain c = true := by
  refine Decidable.by_contra fun hplain => ?_
  rw [Bool.not_eq_true] at hplain
  simp only [Payload.isPlain, Bool.and_eq_false_iff, decide_eq_false_iff_not,
    Decidable.not_not] at hplain
  rcases hplain with (rfl | rfl) | rfl
  · exact absurd (isDigit_of_mem_codeText h) (by decide)
  · exact absurd (isDigit_of_mem_codeText h) (by decide)
  · exact absurd (isDigit_of_mem_codeText h) (by decide)

theorem return_notMem_codeText (code : Option Int) : '\r' ∉ (codeText code).toList := fun h =>
  absurd (isDigit_of_mem_codeText h) (by decide)

theorem isXmlChar_of_mem_codeText {code : Option Int} {c : Char}
    (h : c ∈ (codeText code).toList) : isXmlChar c = true := by
  rcases isDigit_of_mem_codeText h with rfl | hc
  · decide
  · simp only [Char.isDigit, Bool.and_eq_true, decide_eq_true_eq] at hc
    have hlow : '0'.toNat ≤ c.toNat := hc.1
    have hhigh : c.toNat ≤ '9'.toNat := hc.2
    have h0 : '0'.toNat = 0x30 := rfl
    have h9 : '9'.toNat = 0x39 := rfl
    exact isXmlChar_of_toNat (by omega) (by omega)

theorem xmlContent_code (code : Option Int) :
    Payload.xmlContent (match code with | some n => .int n | none => .null) =
      Payload.xmlText (codeText code).toList := by
  rw [Payload.xmlText_of_isPlain fun _ => isPlain_of_mem_codeText]
  cases code with
  | none => rfl
  | some n => exact (toList_toString_int n).symm

theorem xmlContent_payload (a : Answer) : a.payload.xmlContent = match a with
    | result value => Payload.xmlText value.toList
    | error message => Payload.xmlElement "error" (Payload.xmlText message.toList) ++ []
    | errorWithCode message code => Payload.xmlElement "error" (Payload.xmlText message.toList) ++
      (Payload.xmlElement "code" (Payload.xmlText (codeText code).toList) ++ []) := by
  cases a with
  | result value => rfl
  | error message => rfl
  | errorWithCode message code =>
    exact congrArg (fun inner => Payload.xmlElement "error" (Payload.xmlText message.toList) ++
      (Payload.xmlElement "code" inner ++ [])) (xmlContent_code code)

theorem reads_content [NameLetters] {d : Declarations} {expand : Expansion} (hd : d.attributes = [])
    (a : Answer) : Reads d expand outerScope a.payload.xmlContent fun nodes =>
      a.Renders (.element a.payload.rootTag [] nodes) := by
  have hscope : outerScope.lookup "" = none := by decide
  have herror : isLetterName "error" = true := by decide
  have hcode : isLetterName "code" = true := by decide
  intro fuel rest hfuel
  rw [xmlContent_payload] at hfuel ⊢
  cases a with
  | result value =>
    obtain ⟨nodes, hread, hspells⟩ := reads_xmlText value.toList fuel rest hfuel
    refine ⟨nodes, hread, ?_⟩
    have h := hspells.holds "result"
    rwa [String.ofList_toList] at h
  | error message =>
    obtain ⟨_, hread, inner, _, rfl, hspells, rfl⟩ :=
      (reads_xmlText message.toList).xmlElement hd hscope herror reads_nil fuel rest hfuel
    refine ⟨_, hread, _, rfl, ?_⟩
    have h := hspells.holds "error"
    rwa [String.ofList_toList] at h
  | errorWithCode message code =>
    obtain ⟨_, hread, inner, _, rfl, hspells, inner', _, rfl, hspells', rfl⟩ :=
      (reads_xmlText message.toList).xmlElement hd hscope herror
        ((reads_xmlText (codeText code).toList).xmlElement hd hscope hcode reads_nil)
        fuel rest hfuel
    refine ⟨_, hread, _, _, rfl, ?_, ?_⟩
    · have h := hspells.holds "error"
      rwa [String.ofList_toList] at h
    · have h := hspells'.holds "code"
      rwa [String.ofList_toList] at h

theorem isLetterName_rootTag (a : Answer) : isLetterName a.payload.rootTag = true := by
  have hresult : isLetterName "result" = true := by decide
  have hresponse : isLetterName "response" = true := by decide
  cases a with
  | result value => exact hresult
  | error message => exact hresponse
  | errorWithCode message code => exact hresponse

theorem rootTag_relined (a : Answer) : a.relined.payload.rootTag = a.payload.rootTag := by
  cases a with
  | result value => rfl
  | error message => rfl
  | errorWithCode message code => rfl

theorem relined_content (a : Answer) :
    Payload.Relined a.payload.xmlContent a.relined.payload.xmlContent := by
  have herror : isLetterName "error" = true := by decide
  have hcode : isLetterName "code" = true := by decide
  have hnil : Payload.Relined [] [] := Payload.relined_of_notMem List.not_mem_nil
  have htext (s : String) : Payload.Relined (Payload.xmlText s.toList)
      (Payload.xmlText (String.ofList (normalizeLines s.toList)).toList) := by
    rw [String.toList_ofList]
    exact Payload.relined_xmlText s.toList
  rw [xmlContent_payload, xmlContent_payload]
  cases a with
  | result value => exact htext value
  | error message => exact ((htext message).xmlElement herror).followed hnil nofun
  | errorWithCode message code =>
    have hnumber := Payload.relined_xmlText (codeText code).toList
    rw [normalizeLines_eq_self_iff.2 (return_notMem_codeText code)] at hnumber
    refine ((htext message).xmlElement herror).followed
      ((hnumber.xmlElement hcode).followed hnil nofun) fun h => ?_
    rw [Payload.xmlElement_eq_cons] at h
    exact absurd (Option.some.inj h) (by decide)

/-- Reading a body begins by making its line ends line feeds. -/
theorem normalizeLines_toXml (a : Answer) :
    normalizeLines a.payload.toXml.toList = a.relined.payload.toXml.toList := by
  have hprolog : '\r' ∉ Payload.prolog := by decide
  have hroot := ((relined_content a).xmlElement (isLetterName_rootTag a)).append [] nofun
  rw [Payload.toList_toXml, Payload.toList_toXml, normalizeLines_append_of_notMem hprolog,
    rootTag_relined]
  rw [List.append_nil] at hroot
  rw [hroot]
  exact congrArg _ (List.append_nil _)

theorem all_isXmlChar_toXml (a : Answer) :
    a.payload.toXml.toList.all isXmlChar = a.text.toList.all isXmlChar := by
  have herror : isLetterName "error" = true := by decide
  have hcode : isLetterName "code" = true := by decide
  have hprolog : Payload.prolog.all isXmlChar = true := by decide
  rw [Payload.toList_toXml, List.all_append, hprolog, Bool.true_and,
    Payload.all_isXmlChar_xmlElement (isLetterName_rootTag a), xmlContent_payload]
  cases a with
  | result value => exact Payload.all_isXmlChar_xmlText _
  | error message =>
    simp only [List.append_nil, Payload.all_isXmlChar_xmlElement herror,
      Payload.all_isXmlChar_xmlText, text]
  | errorWithCode message code =>
    have hnumber : (codeText code).toList.all isXmlChar = true :=
      List.all_eq_true.2 fun _ => isXmlChar_of_mem_codeText
    simp only [List.append_nil, List.all_append, Payload.all_isXmlChar_xmlElement herror,
      Payload.all_isXmlChar_xmlElement hcode, Payload.all_isXmlChar_xmlText, hnumber,
      Bool.and_true, text]

/-! ## Reading a body -/

theorem exists_readXml {a : Answer} (h : ∀ c ∈ a.text.toList, isXmlChar c = true) :
    ∃ n, a.readXml = .ok n ∧ a.relined.Renders n := by
  have hall : a.payload.toXml.toList.all isXmlChar = true := by
    rw [all_isXmlChar_toXml]
    exact List.all_eq_true.2 h
  have hdecode := Payload.decodeDocument_encode_toXml a.payload
  rw [if_pos hall, normalizeLines_toXml] at hdecode
  let := NameLetters.plain
  obtain ⟨nodes, hread, hrenders⟩ := Payload.readDocument?_toXml
    (isLetterName_rootTag a.relined) fun d expand hd => reads_content hd a.relined
  refine ⟨_, ?_, hrenders⟩
  simp only [readXml, readBytes, hdecode, bind, Except.bind, Decoded.plain, hread]
  rfl

theorem readXml_eq_error {a : Answer} (h : ¬∀ c ∈ a.text.toList, isXmlChar c = true) :
    a.readXml = .error .malformed := by
  have hall : ¬a.payload.toXml.toList.all isXmlChar = true := by
    rw [all_isXmlChar_toXml]
    exact mt List.all_eq_true.1 h
  rw [readXml, readBytes, Payload.decodeDocument_encode_toXml, if_neg hall]
  rfl

theorem withText_text (a : Answer) : a.withText a.text = a := by
  cases a with
  | result value => rfl
  | error message => rfl
  | errorWithCode message code => rfl

/-- Answers of one form that an element renders have the same text. -/
theorem text_eq_of_renders {a : Answer} {s : String} {n : Node} (h : a.Renders n)
    (hs : (a.withText s).Renders n) : a.text = s := by
  cases a with
  | result value => exact h.2.2.symm.trans hs.2.2
  | error message =>
    obtain ⟨e, rfl, he⟩ := h
    obtain ⟨e', heq, he'⟩ := hs
    cases heq
    exact he.2.2.symm.trans he'.2.2
  | errorWithCode message code =>
    obtain ⟨e, c, rfl, he, -⟩ := h
    obtain ⟨e', c', heq, he', -⟩ := hs
    cases heq
    exact he.2.2.symm.trans he'.2.2

theorem wellFormed_iff (a : Answer) :
    (∃ n, a.readXml = .ok n) ↔ ∀ c ∈ a.text.toList, isXmlChar c = true := by
  refine ⟨fun ⟨n, hn⟩ => Decidable.by_contra fun h => ?_, fun h => ?_⟩
  · rw [readXml_eq_error h] at hn
    cases hn
  · obtain ⟨n, hn, -⟩ := exists_readXml h
    exact ⟨n, hn⟩

theorem renders_relined {a : Answer} {n : Node} (h : a.readXml = .ok n) : a.relined.Renders n := by
  obtain ⟨n', hn', hrenders⟩ := exists_readXml (a.wellFormed_iff.1 ⟨n, h⟩)
  rw [h] at hn'
  exact Except.ok.inj hn' ▸ hrenders

theorem rendered_iff (a : Answer) : (∃ n, a.readXml = .ok n ∧ a.Renders n) ↔
    ∀ c ∈ a.text.toList, isXmlChar c = true ∧ c ≠ '\r' := by
  refine ⟨fun ⟨n, hn, hrenders⟩ => ?_, fun h => ?_⟩
  · have hsame := text_eq_of_renders hrenders (renders_relined hn)
    have hnone : '\r' ∉ a.text.toList := by
      rw [← normalizeLines_eq_self_iff, ← String.toList_ofList (l := normalizeLines _), ← hsame]
    exact fun c hc => ⟨a.wellFormed_iff.1 ⟨n, hn⟩ c hc, fun hreturn => hnone (hreturn ▸ hc)⟩
  · obtain ⟨n, hn⟩ := a.wellFormed_iff.2 fun c hc => (h c hc).1
    have hnone : '\r' ∉ a.text.toList := fun hc => (h _ hc).2 rfl
    have hself : a.relined = a := by
      rw [relined, normalizeLines_eq_self_iff.2 hnone, String.ofList_toList, withText_text]
    exact ⟨n, hn, hself ▸ renders_relined hn⟩

/-- The body of an answer is well-formed exactly when its text has no characters but those that a
document may contain; read back, it then says what the answer says with its line ends made line
feeds, which is what the answer says exactly when there are no carriage returns. -/
theorem carries_iff (a : Answer) :
    ((∃ n, a.readXml = .ok n) ↔ ∀ c ∈ a.text.toList, isXmlChar c = true) ∧
      ((∃ n, a.readXml = .ok n ∧ a.Renders n) ↔
        ∀ c ∈ a.text.toList, isXmlChar c = true ∧ c ≠ '\r') ∧
      ∀ n, a.readXml = .ok n → a.relined.Renders n :=
  ⟨a.wellFormed_iff, a.rendered_iff, fun _ => renders_relined⟩

/-- A carriage return comes back as a line feed, and a control character makes the body
ill-formed. -/
theorem result_not_carried :
    (∃ n, (result "a\rb").readXml = .ok n ∧ (result "a\nb").Renders n) ∧
      (¬∃ n, (result "a\rb").readXml = .ok n ∧ (result "a\rb").Renders n) ∧
      (result "\x01").readXml = .error .malformed := by
  have hreturn : "a\rb".toList.all isXmlChar = true := by decide
  have hcontrol : ¬"\x01".toList.all isXmlChar = true := by decide
  refine ⟨?_, fun h => ?_, readXml_eq_error (mt List.all_eq_true.2 hcontrol)⟩
  · obtain ⟨n, hn⟩ := (result "a\rb").wellFormed_iff.2 (List.all_eq_true.1 hreturn)
    exact ⟨n, hn, renders_relined hn⟩
  · have hmem : '\r' ∈ "a\rb".toList := by decide
    exact ((rendered_iff _).1 h _ hmem).2 rfl

end Answer

/-! ## Bodies of responses -/

/-- A body is read when the text of the answer has no characters but those that a document may
contain, and then says what the answer says but for its line ends. -/
structure Answer.CarriedBy (a : Answer) (body : String) : Prop where
  wellFormed_iff :
    (∃ n, readBytes (encode body) = .ok n) ↔ ∀ c ∈ a.text.toList, isXmlChar c = true
  rendered_iff : (∃ n, readBytes (encode body) = .ok n ∧ a.Renders n) ↔
    ∀ c ∈ a.text.toList, isXmlChar c = true ∧ c ≠ '\r'
  relined : ∀ n, readBytes (encode body) = .ok n → a.relined.Renders n

theorem Answer.carriedBy_toXml (a : Answer) : a.CarriedBy a.payload.toXml :=
  ⟨a.wellFormed_iff, a.rendered_iff, fun _ => renders_relined⟩

/-- The XML body of whatever the router responds carries an answer, as far as such bodies do. -/
theorem Barrier.body_carries {b : Barrier} {execute : Executor} {q : Request} {handled : Handled}
    {response : Response} (h : b.handle execute q = some handled)
    (hresponse : handled.outcome = .ok response) :
    ∃ a : Answer, response.payload = a.payload ∧ a.CarriedBy (response.render .xml).body := by
  obtain ⟨a, ha⟩ := exists_answer h hresponse
  have hbody : (response.render .xml).body = a.payload.toXml := congrArg Payload.toXml ha
  refine ⟨a, ha, ?_⟩
  rw [hbody]
  exact a.carriedBy_toXml

end ScriptGateway
