import ScriptGateway.Gateway.Http
import ScriptGateway.Proofs.Gateway.Answers

/-!
# Statuses and runs

The status of a response tells whether a script was run for it (`Tells`): a caller that sees 400 or
503 knows that nothing has happened, and one that sees 200 or 500 that exactly one script was run.
This holds of every response to a `GET` or a `POST`, whatever the load led to and whatever the
engine makes of a script (`Barrier.answerAt_accounts`).

The scripts of an exchange are not only a list beside its response: the run of the script decides on
the response, and what any other script would have done makes no difference.
-/

set_option autoImplicit false

namespace ScriptGateway

/-- What a status tells about the scripts that were run. -/
inductive Tells : Nat → List String → Prop
  | refused : Tells 400 []
  | unloaded : Tells 503 []
  | answered (script : String) : Tells 200 [script]
  | failed (script : String) : Tells 500 [script]

variable {execute execute' : Executor} {b : Barrier} {cause : Option Fault}

/-! ## Requests -/

theorem Response.tells_of_ofRun {run : Except Fault Script.Run} {response : Response}
    (h : Response.ofRun run = .ok response) (script : String) : Tells response.status [script] := by
  unfold ofRun at h
  split at h
  · cases h
    exact .answered script
  · cases h
    exact .failed script
  · cases h

/-- The status tells what was run, and the run of a script decides on the outcome. -/
structure Handled.Accounts (execute : Executor) (h : Handled) : Prop where
  tells : ∀ response, h.outcome = .ok response → Tells response.status h.scripts
  ran : ∀ script ∈ h.scripts, h.outcome = Response.ofRun (execute script)

theorem Registries.handle_accounts (g : Registries) (execute : Executor) (q : Request) :
    (g.handle execute q).Accounts execute := by
  unfold handle
  split
  · refine ⟨fun response h => Response.tells_of_ofRun h _, fun script hscript => ?_⟩
    rw [List.mem_singleton.1 hscript]
  · refine ⟨fun response h => ?_, fun script hscript => by cases hscript⟩
    cases h
    exact .refused
  · refine ⟨fun response h => ?_, fun script hscript => by cases hscript⟩
    cases h

/-- Engines that agree on the scripts that were run lead to the same outcome. -/
theorem Registries.handle_congr {g : Registries} {q : Request}
    (h : ∀ script ∈ (g.handle execute q).scripts, execute' script = execute script) :
    g.handle execute' q = g.handle execute q := by
  unfold handle at h ⊢
  split
  · rename_i script hscript
    simp only [hscript, List.mem_singleton, forall_eq] at h
    rw [h]
  · rfl
  · rfl

namespace Barrier

/-- Behind a barrier whose load has ended everything is handled, if only to say that the load
failed. -/
theorem exists_handle_accounts (hended : b.phase = .ended cause) (execute : Executor)
    (q : Request) : ∃ h, b.handle execute q = some h ∧ h.Accounts execute ∧
      ∀ execute' : Executor, (∀ script ∈ h.scripts, execute' script = execute script) →
        b.handle execute' q = some h := by
  cases cause with
  | none =>
    have hhandle : ∀ execute : Executor,
        b.handle execute q = some (b.registries.handle execute q) := by simp [handle, hended]
    refine ⟨_, hhandle execute, b.registries.handle_accounts execute q, fun execute' hagree => ?_⟩
    rw [hhandle, Registries.handle_congr hagree]
  | some f =>
    have hhandle : ∀ execute : Executor, b.handle execute q =
        some ⟨[], .ok ⟨503, .error (Fault.message (.loadFailed f))⟩⟩ := by simp [handle, hended]
    refine ⟨_, hhandle execute, ⟨fun response h => ?_, fun script hscript => by cases hscript⟩,
      fun execute' _ => hhandle execute'⟩
    cases h
    exact .unloaded

end Barrier

/-! ## Exchanges -/

theorem HttpRequest.params?_eq_none_iff {q : HttpRequest} :
    q.params? = none ↔ q.method = "POST" ∧ Text.decode? q.body = none := by
  unfold params?
  split
  · rename_i hpost
    simp [hpost]
  · rename_i hpost
    simp [hpost]

/-- The status tells what was run, and the run of a script decides on the response, which is written
in the format that the request asks for. -/
structure Exchange.Accounts (execute : Executor) (q : HttpRequest) (x : Exchange) : Prop where
  tells : ∀ response, x.outcome = .ok response → Tells response.status x.scripts
  ran : ∀ script ∈ x.scripts, ∃ f, q.format = .ok f ∧
    x.outcome = (Response.ofRun (execute script)).map (·.render f)

namespace Exchange

variable {q : HttpRequest} {f : Format} {h : Handled} {response : HttpResponse}

theorem plain_accounts (hstatus : response.status = 400) : (plain response).Accounts execute q where
  tells := by
    intro response' h
    obtain rfl : response = response' := Except.ok.inj h
    exact hstatus ▸ .refused
  ran := fun script hscript => by cases hscript

theorem ofHandled_accounts (hformat : q.format = .ok f) (hh : h.Accounts execute) :
    (ofHandled f h).Accounts execute q where
  tells := by
    intro response hresponse
    obtain ⟨inner, hinner, rfl⟩ := Outcome.map_eq_ok.1 hresponse
    exact hh.tells inner hinner
  ran := by
    intro script hscript
    refine ⟨f, hformat, ?_⟩
    rw [← hh.ran script hscript]
    rfl

end Exchange

/-- A request that cannot be read: it asks for a format that there is not, or its body is no
text. -/
def HttpRequest.Unreadable (q : HttpRequest) : Prop :=
  (∃ name, q.format = .error name) ∨ q.method = "POST" ∧ Text.decode? q.body = none

namespace Barrier

variable {q : HttpRequest} {path : String}

section

variable (b) (execute) (path)

theorem answerAt_unsupported (hmethod : Method.of q.method ≠ .other) {name : String}
    (hformat : q.format = .error name) :
    b.answerAt execute q path = some (.plain (.unsupportedFormat name)) := by
  unfold answerAt
  split
  · rename_i hother
    exact absurd hother hmethod
  · rw [hformat]

theorem answerAt_badBody (hmethod : Method.of q.method ≠ .other) {f : Format}
    (hformat : q.format = .ok f) (hparams : q.params? = none) :
    b.answerAt execute q path = some (.plain (.badBody f)) := by
  unfold answerAt
  split
  · rename_i hother
    exact absurd hother hmethod
  · rw [hformat, hparams]

theorem answerAt_handled (hmethod : Method.of q.method ≠ .other) {f : Format}
    {params : OrderedMap String String} (hformat : q.format = .ok f)
    (hparams : q.params? = some params) :
    b.answerAt execute q path =
      (b.handle execute ⟨Method.of q.method, path, params⟩).map (.ofHandled f) := by
  unfold answerAt
  split
  · rename_i hother
    exact absurd hother hmethod
  · rw [hformat, hparams]

end

/-- A request that cannot be read is refused at once, any other one is handled. -/
theorem answerAt_cases (hmethod : q.method = "GET" ∨ q.method = "POST") :
    (∃ response : HttpResponse, q.Unreadable ∧ response.status = 400 ∧
      ∀ (b : Barrier) execute path, b.answerAt execute q path = some (.plain response)) ∨
    ∃ f params, ¬ q.Unreadable ∧ q.format = .ok f ∧ ∀ (b : Barrier) execute path,
      b.answerAt execute q path =
        (b.handle execute ⟨Method.of q.method, path, params⟩).map (.ofHandled f) := by
  have hserved : Method.of q.method ≠ .other := by
    rcases hmethod with h | h <;> simp [Method.of, h]
  simp only [HttpRequest.Unreadable, ← HttpRequest.params?_eq_none_iff]
  cases hformat : q.format with
  | error name =>
    exact .inl ⟨.unsupportedFormat name, .inl ⟨name, rfl⟩, rfl,
      fun b execute path => b.answerAt_unsupported execute path hserved hformat⟩
  | ok f =>
    cases hparams : q.params? with
    | none =>
      exact .inl ⟨.badBody f, .inr rfl, rfl,
        fun b execute path => b.answerAt_badBody execute path hserved hformat hparams⟩
    | some params =>
      exact .inr ⟨f, params, by simp, rfl,
        fun b execute path => b.answerAt_handled execute path hserved hformat hparams⟩

/-- **The status tells what was run**, for every `GET` and every `POST` once the load has ended: a
response with 400 or 503 comes without a run, one with 200 or 500 from a single run, and there is no
other status. What cannot be read is refused. What the engine makes of the scripts that were not run
makes no difference. -/
theorem answerAt_accounts (hended : b.phase = .ended cause)
    (hmethod : q.method = "GET" ∨ q.method = "POST") :
    ∃ x, b.answerAt execute q path = some x ∧ x.Accounts execute q ∧
      (q.Unreadable → ∃ response, x = .plain response ∧ response.status = 400) ∧
      ∀ execute' : Executor, (∀ script ∈ x.scripts, execute' script = execute script) →
        b.answerAt execute' q path = some x := by
  rcases answerAt_cases hmethod with ⟨response, -, hstatus, hanswer⟩ |
    ⟨f, params, hreadable, hformat, hanswer⟩
  · exact ⟨_, hanswer b execute path, Exchange.plain_accounts hstatus,
      fun _ => ⟨response, rfl, hstatus⟩, fun execute' _ => hanswer b execute' path⟩
  · obtain ⟨h, hhandle, haccounts, hagree⟩ :=
      exists_handle_accounts hended execute ⟨Method.of q.method, path, params⟩
    refine ⟨.ofHandled f h, ?_, Exchange.ofHandled_accounts hformat haccounts,
      fun hq => absurd hq hreadable, fun execute' hsame => ?_⟩
    · rw [hanswer, hhandle, Option.map_some]
    · rw [hanswer, hagree execute' hsame, Option.map_some]

/-- The name of a playlist is read by one script. -/
theorem answerAt_accounts_name_of_playlist :
    shelved.phase = .ended none ∧
      ∃ x response script, shelved.answerAt (fun _ => .ok ⟨"Road trip\n", "", 0⟩)
          ⟨"GET", "/playlists/1/name", "format=xml", []⟩ "/playlists/1/name" = some x ∧
        x.outcome = .ok response ∧ response.status = 200 ∧ x.scripts = [script] := by
  have hanswer : ((shelved.answerAt (fun _ => .ok ⟨"Road trip\n", "", 0⟩)
      ⟨"GET", "/playlists/1/name", "format=xml", []⟩ "/playlists/1/name").bind
        (·.outcome.toOption)).map (·.status) = some 200 := by decide +kernel
  obtain ⟨response, hresponse, hstatus⟩ := Option.map_eq_some_iff.1 hanswer
  obtain ⟨x, hx, hok⟩ := Option.bind_eq_some_iff.1 hresponse
  obtain ⟨x', hx', haccounts, -, -⟩ : ∃ x', shelved.answerAt (fun _ => .ok ⟨"Road trip\n", "", 0⟩)
      ⟨"GET", "/playlists/1/name", "format=xml", []⟩ "/playlists/1/name" = some x' ∧
        x'.Accounts _ _ ∧ _ ∧ _ := answerAt_accounts shelved_ended (.inl rfl)
  obtain rfl : x = x' := Option.some.inj (hx.symm.trans hx')
  have hok : x.outcome = .ok response := Outcome.toOption_eq_some.1 hok
  have htells : Tells 200 x.scripts := hstatus ▸ haccounts.tells response hok
  generalize hscripts : x.scripts = scripts at htells
  cases htells with
  | answered script => exact ⟨shelved_ended, x, response, script, hx, hok, hstatus, hscripts⟩

end Barrier

end ScriptGateway
