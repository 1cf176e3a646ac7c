import ScriptGateway.Fault
import ScriptGateway.Script.Program
import ScriptGateway.Text.Utf8

/-!
# Running scripts

What comes back from the scripting engine, and how it is read: the value of a script that ran, or
the message and number of an error. The engine reports its errors as a text that ends with the
number in parentheses.
-/

set_option autoImplicit false

namespace ScriptGateway.Script

open Text

/-- The outcome of one run. -/
structure Run where
  stdout : String
  stderr : String
  status : Int
  deriving DecidableEq, Repr

namespace Run

def ok (r : Run) : Bool := r.status = 0

/-- The printed result without the line feeds at its end. -/
def value (r : Run) : String := String.ofList (dropEndWhile (· = '\n') r.stdout.toList)

/-- The number in parentheses at the end of a text. -/
def finalNumber? (cs : List Char) : Option Numeral :=
  match cs.reverse with
  | ')' :: rest =>
    let digits := (rest.takeWhile isDigit).reverse
    if digits.isEmpty then none
    else match rest.dropWhile isDigit with
      | '(' :: _ => some ⟨false, digits⟩
      | '-' :: '(' :: _ => some ⟨true, digits⟩
      | _ => none
  | _ => none

/-- The number of the error that the engine reported. -/
def errorNumber (r : Run) : Except TooLong (Option Int) :=
  match finalNumber? (strip r.stderr).toList with
  | none => .ok none
  | some n => n.value.map some

/-- The message of a run that failed. -/
def errorText (r : Run) : String :=
  if (strip r.stderr).isEmpty then "script execution failed" else strip r.stderr

/-- The value of a run, or the fault that it reports. Without an error number the exit status stands
in for it. -/
def result (r : Run) : Except Fault String :=
  if r.ok then .ok r.value
  else match r.errorNumber with
    | .error t => .error (.tooLong t)
    | .ok n => .error (.execution r.errorText (some (n.getD r.status)))

end Run

/-! ## The engine -/

/-- The program that runs scripts, and the application they are addressed to. -/
structure Engine where
  application : String
  program : String
  deriving DecidableEq, Repr

/-- What a started process left behind; the exit status may be unknown. -/
structure Exit where
  stdout : List UInt8
  stderr : List UInt8
  status : Option Int
  deriving Repr

namespace Engine

/-- The command line of the engine, which reads its script from standard input. -/
def commandLine (e : Engine) : List String := [e.program, "-"]

def input (e : Engine) (script : String) : String := tell script e.application

/-- The run as seen by a process that ended, or the fault of one that did not start. -/
def outcome (e : Engine) : Except String Exit → Except Fault Run
  | .error reason => .error (.execution ("cannot start " ++ e.program ++ ": " ++ reason) none)
  | .ok x => .ok ⟨String.ofList (decodeLossy x.stdout), String.ofList (decodeLossy x.stderr),
      x.status.getD (-1)⟩

end Engine

end ScriptGateway.Script
