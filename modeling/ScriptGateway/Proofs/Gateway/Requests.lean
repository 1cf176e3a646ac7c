import ScriptGateway.Gateway.Route
import ScriptGateway.Proofs.Outcome

/-!
# Scripts of requests

Which script a request leads to: a `GET` of a property to the one that reads it
(`Request.script_get`), a write to the one that writes it (`Request.script_write`), which there is
exactly when the property can be written and takes the value (`Specifier.exists_writeScript_iff`).
That script and no other is run (`Registries.handle_scripts`).
-/

set_option autoImplicit false

namespace ScriptGateway

variable {r : ClassRegistry} {raw : String} {s : Specifier} {p : Property} {a : Call.Argument}

/-! ## Writing scripts -/

namespace Specifier

theorem writeScript_eq_ok_iff {script : String} :
    s.writeScript r p raw = .ok script ↔ p.writable = true ∧
      ∃ a, propertyArgument r p raw = .ok a ∧
        script = Script.ofLines (s.statements ++ a.statements ++
          [Script.assign s.reference a.literal, Script.answer s.reference]) := by
  unfold writeScript
  cases p.writable with
  | false => simp
  | true =>
    simp only [Bool.not_true, Bool.false_eq_true, ite_false, true_and, Outcome.map_eq_ok]
    exact exists_congr fun a => and_congr_right fun _ => eq_comm

theorem exists_writeScript_iff :
    (∃ script, s.writeScript r p raw = .ok script) ↔
      p.writable = true ∧ ∃ a, propertyArgument r p raw = .ok a := by
  simp only [writeScript_eq_ok_iff, exists_and_left]
  exact and_congr_right fun _ => ⟨fun ⟨_, a, ha, _⟩ => ⟨a, ha⟩, fun ⟨a, ha⟩ => ⟨_, a, ha, rfl⟩⟩

theorem propertyArgument_specifier_ok_iff (hk : p.kind = .specifier) :
    propertyArgument r p raw = .ok a ↔
      ∃ v, resolve r raw writeParameter = .ok v ∧ a = ⟨v.statements, v.reference⟩ := by
  simp only [propertyArgument, hk, Call.object, Outcome.map_eq_ok]
  exact exists_congr fun v => and_congr_right fun _ => eq_comm

/-- Only an object brings bindings. -/
theorem propertyArgument_statements_eq_nil (hk : p.kind ≠ .specifier)
    (h : propertyArgument r p raw = .ok a) : a.statements = [] := by
  unfold propertyArgument at h
  split at h
  · cases h; rfl
  · cases h; rfl
  · split at h
    · cases h; rfl
    · cases h
  · rename_i hs
    exact absurd hs hk
  · split at h
    · cases h; rfl
    · cases h
  · split at h
    · cases h; rfl
    · cases h

end Specifier

/-! ## Requests -/

namespace Request

variable {commands : CommandRegistry}

theorem script_get {path : String} {params : OrderedMap String String}
    (h : resolve r path pathStem = .ok s) (hp : s.isProperty = true) :
    script r commands ⟨.get, path, params⟩ = .ok s.readScript := by
  obtain ⟨p, hp⟩ := Option.isSome_iff_exists.1 hp
  simp [script, command?, h, bind, Except.bind, hp]

theorem script_write {q : Request} (hcommand : q.command? = none)
    (hs : resolve r q.path pathStem = .ok s) (hp : s.property? = some p) (hget : q.method ≠ .get)
    (hraw : q.params.get? writeParameter = some raw) :
    q.script r commands = s.writeScript r p raw := by
  simp only [script, hcommand, hs, bind, Except.bind, hp]
  cases hmethod : q.method with
  | get => exact absurd hmethod hget
  | post => simp [hraw]
  | other => simp [hraw]

end Request

/-- What a script leads to, or what kept it from being written. -/
def Handled.ofScript (execute : Executor) : Except Problem String → Handled
  | .ok script => ⟨[script], Response.ofRun (execute script)⟩
  | .error (.refused refusal) => ⟨[], .ok refusal.response⟩
  | .error (.fault f) => ⟨[], .error f⟩

theorem Registries.handle_eq_ofScript (g : Registries) (execute : Executor) (q : Request) :
    g.handle execute q = .ofScript execute (q.script g.classes g.commands) := rfl

theorem Barrier.handle_eq_ofScript {b : Barrier} (hended : b.phase = .ended none)
    (execute : Executor) (q : Request) : b.handle execute q =
      some (.ofScript execute (q.script b.registries.classes b.registries.commands)) := by
  rw [← Registries.handle_eq_ofScript]
  simp [handle, hended]

/-- What is run for a request is the script that was written for it, if one was. -/
theorem Registries.handle_scripts (g : Registries) (execute : Executor) (q : Request) :
    (g.handle execute q).scripts = (q.script g.classes g.commands).toOption.toList := by
  rw [handle_eq_ofScript]
  rcases q.script g.classes g.commands with (refusal | f) | script
  · rfl
  · rfl
  · rfl

end ScriptGateway
