import ScriptGateway.Dictionary.Basic
import ScriptGateway.Fault
import ScriptGateway.Payload.Basic
import ScriptGateway.Text.Lower

/-!
# Descriptions of dictionaries

Reads dictionaries and their parts from payloads. Every field that does not fit is reported, with
its place, in the order in which the fields are declared; unknown fields are ignored.
-/

set_option autoImplicit false

namespace ScriptGateway

/-- A reading that either succeeds or lists everything that does not fit. -/
abbrev Checked (α : Type) := Except (List Misfit) α

namespace Checked

def misfit {α : Type} (kind : String) : Checked α := .error [⟨[], kind⟩]

/-- Moves the misfits of a part to the place of the part. -/
def inField {α : Type} (place : String) : Checked α → Checked α
  | .ok a => .ok a
  | .error ms => .error (ms.map fun m => { m with place := place :: m.place })

/-- Applies a checked function to a checked value; the misfits of both count. -/
def apply {α β : Type} : Checked (α → β) → Checked α → Checked β
  | .ok f, .ok a => .ok (f a)
  | .ok _, .error ms => .error ms
  | .error ms, .ok _ => .error ms
  | .error ms, .error ns => .error (ms ++ ns)

/-- Reads the items of a list, each at its position. -/
def items {α : Type} (read : Payload → Checked α) : Nat → List Payload → Checked (List α)
  | _, [] => .ok []
  | n, p :: rest =>
    apply (apply (.ok List.cons) (inField (toString n) (read p))) (items read (n + 1) rest)

def text : Payload → Checked String
  | .text s => .ok s
  | _ => misfit "string_type"

def optionalText : Payload → Checked (Option String)
  | .null => .ok none
  | .text s => .ok (some s)
  | _ => misfit "string_type"

def listOf {α : Type} (read : Payload → Checked α) : Payload → Checked (List α)
  | .list ps => items read 0 ps
  | _ => misfit "list_type"

def trueWords : List String := ["1", "true", "t", "yes", "y", "on"]

def falseWords : List String := ["0", "false", "f", "no", "n", "off"]

/-- ASCII letters in small. -/
def smallLetters (s : String) : String :=
  String.ofList (s.toList.map fun c => if c.toNat < 0x80 then c.toLower else c)

/-- The whole number that a binary number equals, if it equals one. -/
def whole? : Decimal.Binary64 → Option Int
  | .infinite _ => none
  | .finite s m q =>
    let magnitude : Option Nat :=
      if 0 ≤ q then some (m * Nat.pow 2 q.toNat)
      else if m % Nat.pow 2 (-q).toNat = 0 then some (m / Nat.pow 2 (-q).toNat)
      else none
    magnitude.map fun n => if s then -(n : Int) else n

/-- Numbers beyond a sign and 63 bits are not taken for whole numbers. -/
def isWord (n : Int) : Bool := -(Nat.pow 2 63 : Int) ≤ n && n < Nat.pow 2 63

/-- A truth value: itself, one or zero, or a word for it in any case. -/
def bool : Payload → Checked Bool
  | .bool b => .ok b
  | .int n => ofInt n
  | .float x => match whole? x with
    | some n => ofInt n
    | none => misfit "bool_type"
  | .text s =>
    let w := smallLetters s
    if trueWords.contains w then .ok true
    else if falseWords.contains w then .ok false
    else misfit "bool_parsing"
  | _ => misfit "bool_type"
where
  ofInt (n : Int) : Checked Bool :=
    if n = 1 then .ok true
    else if n = 0 then .ok false
    else misfit (if isWord n then "bool_parsing" else "bool_type")

/-- A field that has to be there. -/
def required {α : Type} (p : Payload) (name : String) (read : Payload → Checked α) : Checked α :=
  inField name (match p.field? name with | some q => read q | none => misfit "missing")

/-- A field that has a value of its own when it is absent. -/
def defaulted {α : Type} (p : Payload) (name : String) (absent : α) (read : Payload → Checked α) :
    Checked α :=
  match p.field? name with
  | some q => inField name (read q)
  | none => .ok absent

/-- Only an object has fields. -/
def fields {α : Type} (read : Payload → Checked α) : Payload → Checked α
  | .object fs => read (.object fs)
  | _ => misfit "model_type"

end Checked

open Checked

def PropertyDecl.ofPayload : Payload → Checked PropertyDecl := fields fun p =>
  apply (apply (apply (.ok PropertyDecl.mk) (required p "name" text))
    (defaulted p "type" "text" text)) (defaulted p "access" "rw" text)

def ClassDecl.ofPayload : Payload → Checked ClassDecl := fields fun p =>
  apply (apply (apply (apply (apply (.ok ClassDecl.mk) (required p "name" text))
    (defaulted p "plural" none optionalText)) (defaulted p "inherits" none optionalText))
    (defaulted p "properties" [] (listOf PropertyDecl.ofPayload)))
    (defaulted p "elements" [] (listOf text))

def ParameterDecl.ofPayload : Payload → Checked ParameterDecl := fields fun p =>
  apply (apply (apply (.ok ParameterDecl.mk) (required p "name" text))
    (defaulted p "type" "text" text)) (defaulted p "optional" false Checked.bool)

def CommandDecl.ofPayload : Payload → Checked CommandDecl := fields fun p =>
  apply (apply (.ok CommandDecl.mk) (required p "name" text))
    (defaulted p "parameters" [] (listOf ParameterDecl.ofPayload))

def Dictionary.ofPayload : Payload → Checked Dictionary := fields fun p =>
  apply (apply (apply (.ok Dictionary.mk)
    (defaulted p "classes" [] (listOf ClassDecl.ofPayload)))
    (defaulted p "commands" [] (listOf CommandDecl.ofPayload)))
    (defaulted p "enumerations" [] (listOf text))

end ScriptGateway
