import ScriptGateway.Decimal.Binary64

/-!
# Payloads

The values that requests are answered with and that descriptions of dictionaries are made of.
-/

set_option autoImplicit false

namespace ScriptGateway

/-- A value with nesting. The fields of an object stand in order, each name once. -/
inductive Payload
  | null
  | bool (b : Bool)
  | int (n : Int)
  | float (x : Decimal.Binary64)
  | text (s : String)
  | list (items : List Payload)
  | object (fields : List (String × Payload))
  deriving Repr

namespace Payload

/-- The field of an object. -/
def field? (name : String) : Payload → Option Payload
  | object fields => fields.lookup name
  | _ => none

/-- An error payload. -/
def error (message : String) : Payload := object [("error", text message)]

/-- An error payload with the number of the error, or null where there is none. -/
def errorWithCode (message : String) (code : Option Int) : Payload :=
  object [("error", text message), ("code", match code with | some n => int n | none => null)]

end Payload

end ScriptGateway
