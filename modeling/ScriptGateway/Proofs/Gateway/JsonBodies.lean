import ScriptGateway.Proofs.Gateway.Results
import ScriptGateway.Proofs.Payload.Writing
import ScriptGateway.Proofs.Text.Utf8

/-!
# JSON bodies of answers

The JSON body of a payload is in ASCII and one JSON text, which stands for that payload and no
other, and the payloads of all responses have such bodies. The number of an error, which is the one
number in a response, is short enough to be read back wherever it was read from a report; the
numbers that an executor reports itself must be so too (`Executor.Bounded`).
-/

set_option autoImplicit false

namespace ScriptGateway

open Text

/-! ## Bodies -/

namespace Payload

/-- The bytes of the JSON body. -/
def jsonBody (p : Payload) : List UInt8 := encode p.toJson

/-- What the bytes of a JSON body are read as. -/
def ofJsonBody? (bytes : List UInt8) : Option Payload :=
  (decode? bytes).bind fun cs => ofJson? (String.ofList cs)

theorem ofJsonBody?_jsonBody {p : Payload} (h : p.Plain) : ofJsonBody? p.jsonBody = some p := by
  rw [ofJsonBody?, jsonBody, decode?_encode, Option.bind_some, String.ofList_toList]
  exact Json.ofJson?_of_text h.text_toJson

end Payload

/-! ## Payloads of responses -/

/-- The numbers that the executor reports, be it with a run or with a fault of its own, are short
enough to be converted. -/
structure Executor.Bounded (execute : Executor) : Prop where
  status {script : String} {run : Script.Run} : execute script = .ok run →
    (Nat.toDigits 10 run.status.natAbs).length ≤ maxDigits
  code {script text : String} {n : Int} : execute script = .error (.execution text (some n)) →
    (Nat.toDigits 10 n.natAbs).length ≤ maxDigits

theorem Payload.plain_error (message : String) : (Payload.error message).Plain := by
  refine .object (by simp) fun f hf => ?_
  obtain rfl := List.mem_singleton.1 hf
  exact .text message

theorem Payload.plain_errorWithCode (message : String) {code : Option Int}
    (h : ∀ n, code = some n → (Nat.toDigits 10 n.natAbs).length ≤ maxDigits) :
    (Payload.errorWithCode message code).Plain := by
  refine .object (by simp) fun f hf => ?_
  rcases List.mem_pair.1 hf with rfl | rfl
  · exact .text message
  · cases code with
    | none => exact .null
    | some n => exact .int (h n rfl)

/-- A number that a run reports was read from its error output, or is its exit status. -/
theorem Script.Run.length_of_result {r : Run} {text : String} {n : Int}
    (hstatus : (Nat.toDigits 10 r.status.natAbs).length ≤ maxDigits)
    (h : r.result = .error (.execution text (some n))) :
    (Nat.toDigits 10 n.natAbs).length ≤ maxDigits := by
  unfold result at h
  split at h
  · cases h
  split at h
  · cases h
  next number hnumber =>
    simp only [Except.error.injEq, Fault.execution.injEq, Option.some.injEq] at h
    obtain ⟨-, rfl⟩ := h
    unfold errorNumber at hnumber
    split at hnumber
    · cases hnumber
      exact hstatus
    next numeral _ =>
      obtain ⟨k, hk, rfl⟩ := Outcome.map_eq_ok.1 hnumber
      exact Numeral.length_toDigits_value hk

theorem Response.plain_of_ofRun {execute : Executor} (hexecute : execute.Bounded)
    {script : String} {response : Response} (h : ofRun (execute script) = .ok response) :
    response.payload.Plain := by
  unfold ofRun at h
  split at h
  next value _ =>
    cases h
    exact .text value
  next text code hfault =>
    cases h
    refine Payload.plain_errorWithCode _ ?_
    rintro n rfl
    cases hrun : execute script with
    | error f =>
      rw [hrun] at hfault
      cases hfault
      exact hexecute.code hrun
    | ok run =>
      rw [hrun] at hfault
      exact run.length_of_result (hexecute.status hrun) hfault
  · cases h

theorem Barrier.plain_of_handle {b : Barrier} {execute : Executor} (hexecute : execute.Bounded)
    {q : Request} {handled : Handled} {response : Response}
    (h : b.handle execute q = some handled) (hresponse : handled.outcome = .ok response) :
    response.payload.Plain := by
  unfold handle at h
  split at h
  · cases h
    unfold Registries.handle at hresponse
    split at hresponse
    · exact Response.plain_of_ofRun hexecute hresponse
    · cases hresponse
      exact Payload.plain_error _
    · cases hresponse
  · cases h
    cases hresponse
    exact Payload.plain_error _
  · cases h

/-- **JSON bodies decode to their payloads**: the body of a payload without fractional numbers is in
ASCII and is one JSON text, which stands for that payload alone and is read back as it. All
responses have such payloads. -/
theorem Payload.json_decodes :
    (∀ p : Payload, p.Plain →
      (∀ byte ∈ p.jsonBody, byte < 0x80) ∧ (∀ q, Json.Text p.toJson q ↔ q = p) ∧
        ofJsonBody? p.jsonBody = some p) ∧
    ∀ (b : Barrier) (execute : Executor) (q : Request) (handled : Handled) (response : Response),
      execute.Bounded → b.handle execute q = some handled → handled.outcome = .ok response →
        response.payload.Plain := by
  refine ⟨fun p hp => ⟨encode_ascii hp.toJson_ascii, fun q => ⟨fun hq => ?_, ?_⟩,
    ofJsonBody?_jsonBody hp⟩, fun b execute q handled response hexecute => ?_⟩
  · exact Json.Text.unique hq hp.text_toJson
  · rintro rfl
    exact hp.text_toJson
  · exact Barrier.plain_of_handle hexecute

/-- An error whose message has characters of every form: quotes, a backslash, a line feed, control
characters, one character beyond ASCII and one beyond sixteen bits. -/
def Payload.mixed : Payload :=
  object [("error", text "\"Café\" \\ 🎵\x7F\x01\n"), ("code", int (-1728)),
    ("seen", list [null, bool true, list []])]

theorem Payload.plain_mixed : mixed.Plain := by
  have hseen : (list [null, bool true, list []]).Plain := by
    refine .list ?_
    simp only [List.forall_mem_cons]
    exact ⟨.null, .bool true, .list nofun, nofun⟩
  refine .object (by decide) ?_
  simp only [List.forall_mem_cons]
  exact ⟨.text _, .int (by decide), hseen, nofun⟩

/-- A run that found nothing under the index it was asked for. -/
def Script.Run.lost : Run := ⟨"", "execution error: Can't get playlist 1. (-1728)\n", 1⟩

theorem Script.Run.bounded_lost : Executor.Bounded fun _ => .ok lost where
  status h := by
    rw [← Except.ok.inj h]
    decide
  code := nofun

theorem Barrier.handle_lost :
    ∃ script, shelved.handle (fun _ => .ok .lost) ⟨.get, "/playlists/1/name", .empty⟩ =
      some ⟨[script], .ok ⟨500, .errorWithCode
        "execution error: Can't get playlist 1. (-1728) (code -1728)" (some (-1728))⟩⟩ := by
  obtain ⟨s, hs, hp, -⟩ := exists_name_of_playlist
  have hresult : Script.Run.lost.result =
      .error (.execution "execution error: Can't get playlist 1. (-1728)" (some (-1728))) := by
    decide
  refine ⟨s.readScript, ?_⟩
  rw [handle_eq_ofScript shelved_ended, Request.script_get hs hp, Handled.ofScript,
    Response.ofRun]
  simp only [Except.bind, hresult]
  rfl

/-- The mixed payload, and the answer to a read of what is not there. -/
theorem Payload.json_decodes_mixed :
    mixed.Plain ∧
    mixed.toJson =
      "\x7b\"error\": \"\\\"Caf\\u00e9\\\" \\\\ \\ud83c\\udfb5\\u007f\\u0001\\n\", " ++
      "\"code\": -1728, \"seen\": [null, true, []]\x7d" ∧
    ofJsonBody? mixed.jsonBody = some mixed ∧
    ∃ (handled : Handled) (response : Response), handled.outcome = .ok response ∧
      Barrier.shelved.handle (fun _ => .ok .lost) ⟨.get, "/playlists/1/name", .empty⟩ =
        some handled ∧
      response.payload.Plain := by
  obtain ⟨hbody, hresponse⟩ := json_decodes
  obtain ⟨_, hhandle⟩ := Barrier.handle_lost
  exact ⟨plain_mixed, by decide, (hbody _ plain_mixed).2.2, _, _, rfl, hhandle,
    hresponse _ _ _ _ _ Script.Run.bounded_lost hhandle rfl⟩

end ScriptGateway
