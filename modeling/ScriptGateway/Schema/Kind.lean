import ScriptGateway.Naming.Key

/-!
# Kinds of values

The type names of a dictionary sorted into the few kinds of values that properties and parameters
are written as.
-/

set_option autoImplicit false

namespace ScriptGateway

/-- The kind of a property's value. -/
inductive PropertyKind
  | text
  | integer
  | boolean
  | specifier
  | enumerated
  | other
  deriving DecidableEq, Repr

def PropertyKind.label : PropertyKind → String
  | text => "text"
  | integer => "integer"
  | boolean => "boolean"
  | specifier => "specifier"
  | enumerated => "enumerated"
  | other => "other"

/-- The kind of a parameter's value. -/
inductive ParameterKind
  | text
  | number
  | boolean
  | specifier
  | constant
  deriving DecidableEq, Repr

def ParameterKind.label : ParameterKind → String
  | text => "text"
  | number => "number"
  | boolean => "boolean"
  | specifier => "specifier"
  | constant => "constant"

namespace Kind

def textTypes : List Key := [⟨"text"⟩, ⟨"string"⟩, ⟨"unicode text"⟩, ⟨"international text"⟩]

def integerTypes : List Key := [⟨"integer"⟩, ⟨"small integer"⟩, ⟨"double integer"⟩]

def numberTypes : List Key :=
  [⟨"number"⟩, ⟨"integer"⟩, ⟨"real"⟩, ⟨"small integer"⟩, ⟨"double integer"⟩, ⟨"small real"⟩]

def referenceTypes : List Key :=
  [⟨"specifier"⟩, ⟨"reference"⟩, ⟨"location specifier"⟩, ⟨"object"⟩]

def booleanType : Key := ⟨"boolean"⟩

end Kind

open Kind in
/-- The kind of a property of the given type. The names of classes stand for objects, but a basic
type comes before a class of the same name. -/
def PropertyKind.of (type : String) (classKeys enumerationKeys : List Key) : PropertyKind :=
  let k := Key.of type
  if k ∈ textTypes then .text
  else if k ∈ integerTypes then .integer
  else if k = booleanType then .boolean
  else if k ∈ referenceTypes ∨ k ∈ classKeys then .specifier
  else if k ∈ enumerationKeys then .enumerated
  else .other

open Kind in
/-- The kind of a parameter of the given type. A class comes before a text type of the same name. -/
def ParameterKind.of (type : String) (classKeys : List Key) : ParameterKind :=
  let k := Key.of type
  if k = booleanType then .boolean
  else if k ∈ numberTypes then .number
  else if k ∈ referenceTypes ∨ k ∈ classKeys then .specifier
  else if k ∈ textTypes then .text
  else .constant

/-- Whether a property can be written. -/
inductive Access
  | readOnly
  | readWrite
  deriving DecidableEq, Repr

/-- Only `r`, in either case and with blanks around it, forbids writing. -/
def Access.of (declared : String) : Access :=
  if Text.lower (Text.strip declared) = "r" then .readOnly else .readWrite

def Access.label : Access → String
  | readOnly => "r"
  | readWrite => "rw"

end ScriptGateway
