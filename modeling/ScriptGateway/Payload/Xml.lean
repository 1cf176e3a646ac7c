import ScriptGateway.Payload.Json

/-!
# XML bodies

The XML text of a payload: objects become elements named by their fields, the items of lists become
`item` elements, and everything else becomes text.
-/

set_option autoImplicit false

namespace ScriptGateway.Payload

open Decimal

def xmlChar (c : Char) : List Char :=
  if c = '&' then "&amp;".toList
  else if c = '<' then "&lt;".toList
  else if c = '>' then "&gt;".toList
  else [c]

def xmlText (cs : List Char) : List Char := cs.flatMap xmlChar

/-- An element with its content; one without content is closed at once. -/
def xmlElement (tag : String) (content : List Char) : List Char :=
  if content.isEmpty then '<' :: (tag.toList ++ " />".toList)
  else '<' :: (tag.toList ++ '>' :: (content ++ '<' :: '/' :: (tag.toList ++ ['>'])))

def xmlFloat : Binary64 → List Char
  | .finite s m q => (finiteText s m q).toList
  | .infinite true => "-inf".toList
  | .infinite false => "inf".toList

mutual

def xmlContent : Payload → List Char
  | null => []
  | bool b => if b then "true".toList else "false".toList
  | int n => intDigits n
  | float x => xmlFloat x
  | text s => xmlText s.toList
  | list items => xmlItems items
  | object fields => xmlFields fields

def xmlItems : List Payload → List Char
  | [] => []
  | p :: rest => xmlElement "item" (xmlContent p) ++ xmlItems rest

def xmlFields : List (String × Payload) → List Char
  | [] => []
  | (k, p) :: rest => xmlElement k (xmlContent p) ++ xmlFields rest

end

/-- The name of the outermost element: `response` around the fields of an object, else `result`. -/
def rootTag : Payload → String
  | object _ => "response"
  | _ => "result"

def toXml (p : Payload) : String :=
  String.ofList
    ("<?xml version='1.0' encoding='utf-8'?>\n".toList ++ xmlElement p.rootTag p.xmlContent)

end ScriptGateway.Payload
