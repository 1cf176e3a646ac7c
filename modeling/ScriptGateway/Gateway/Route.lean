import ScriptGateway.Command.Call
import ScriptGateway.Gateway.Readiness
import ScriptGateway.Payload.Basic
import ScriptGateway.Script.Run

/-!
# Requests

From a request to a script and from its outcome to a response. A `POST` to a single segment of the
shape of a command name is a call of that command, whatever else bears the name. Every other request
is a path to a property: `GET` reads it, anything else writes it and reads it back. Refusals are answered
with 400, faults of the scripting engine with 500 and a failed load with 503.
-/

set_option autoImplicit false

namespace ScriptGateway

inductive Method
  | get
  | post
  /-- Any other method; like `POST` it writes, but it calls no command. -/
  | other
  deriving DecidableEq, Repr

/-- Methods are told apart by their exact names. -/
def Method.of (name : String) : Method :=
  if name = "GET" then .get else if name = "POST" then .post else .other

structure Request where
  method : Method
  path : String
  params : OrderedMap String String
  deriving Repr

structure Response where
  status : Nat
  payload : Payload
  deriving Repr

def Refusal.status (_ : Refusal) : Nat := 400

def Refusal.response (r : Refusal) : Response := ⟨r.status, .error r.message⟩

/-- The parameter that carries the value of a write, which is also the stem of the variables that
the value binds. -/
def writeParameter : String := "value"

namespace Specifier

/-- The script that reads what is addressed. -/
def readScript (s : Specifier) : String :=
  Script.ofLines (s.statements ++ [Script.answer s.reference])

/-- A value for a property as it stands in a script, with the bindings it relies on. -/
def propertyArgument (r : ClassRegistry) (p : Property) (raw : String) :
    Except Problem Call.Argument :=
  match p.kind with
  | .text => .ok ⟨[], Script.textLiteral raw⟩
  | .boolean => .ok ⟨[], Script.boolLiteral raw⟩
  | .integer => match Script.integerLiteral? raw with
    | some n => .ok ⟨[], n⟩
    | none => Call.refuse p.name raw .integer
  | .specifier => Call.object r raw writeParameter
  | .enumerated | .other => match Script.bareLiteral? raw with
    | some c => .ok ⟨[], c⟩
    | none => Call.refuse p.name raw .propertyConstant

/-- The script that writes a property and reads it back. -/
def writeScript (r : ClassRegistry) (s : Specifier) (p : Property) (raw : String) :
    Except Problem String :=
  if !p.writable then .error (.refused (.inaccessible s.path (.readOnly p.name)))
  else (propertyArgument r p raw).map fun a =>
    Script.ofLines (s.statements ++ a.statements
      ++ [Script.assign s.reference a.literal, Script.answer s.reference])

end Specifier

namespace Request

/-- The command that a request calls, if it is a call. -/
def command? (q : Request) : Option String :=
  match q.method, Path.segments q.path with
  | .post, [segment] => if Command.isName segment then some segment else none
  | _, _ => none

/-- The script for a request. -/
def script (classes : ClassRegistry) (commands : CommandRegistry) (q : Request) :
    Except Problem String :=
  match q.command? with
  | some name => (call classes commands name q.params).map (·.script)
  | none => do
    let s ← resolve classes q.path pathStem
    match s.property? with
    | none => .error (.refused (.inaccessible q.path .object))
    | some p =>
      match q.method with
      | .get => .ok s.readScript
      | .post | .other =>
        match q.params.get? writeParameter with
        | none => .error (.refused (.inaccessible q.path .noValue))
        | some raw => s.writeScript classes p raw

end Request

/-- The outcome of handing a script to the engine. -/
abbrev Executor := String → Except Fault Script.Run

/-- What a request led to: the scripts that were run for it, and its response or the fault that
kept it from one. -/
structure Handled where
  scripts : List String
  outcome : Except Fault Response
  deriving Repr

/-- The response to the outcome of a script. Faults of execution are answered. -/
def Response.ofRun (run : Except Fault Script.Run) : Except Fault Response :=
  match run.bind (·.result) with
  | .ok value => .ok ⟨200, .text value⟩
  | .error (.execution text code) =>
    .ok ⟨500, .errorWithCode (Fault.message (.execution text code)) code⟩
  | .error f => .error f

/-- Handles a request over tables that have been loaded. -/
def Registries.handle (r : Registries) (execute : Executor) (q : Request) : Handled :=
  match q.script r.classes r.commands with
  | .ok script => ⟨[script], Response.ofRun (execute script)⟩
  | .error (.refused refusal) => ⟨[], .ok refusal.response⟩
  | .error (.fault f) => ⟨[], .error f⟩

/-- Handles a request behind a barrier. There is no answer while the load has not ended. -/
def Barrier.handle (b : Barrier) (execute : Executor) (q : Request) : Option Handled :=
  match b.phase with
  | .ended none => some (b.registries.handle execute q)
  | .ended (some cause) =>
    some ⟨[], .ok ⟨503, .error (Fault.message (.loadFailed cause))⟩⟩
  | _ => none

end ScriptGateway
