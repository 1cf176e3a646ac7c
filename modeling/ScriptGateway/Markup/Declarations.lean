import ScriptGateway.Markup.Scan
import Std.Data.HashMap

/-!
# Declarations

What the document type declaration of a document says about its content: what entities stand for, and
the types and default values of attributes. A reference to an entity of which too much would have to
be read is not replaced.
-/

set_option autoImplicit false

namespace ScriptGateway.Markup

inductive EntityValue
  /-- A replacement text in the document itself. -/
  | internal (text : List Char)
  | external
  /-- A replacement text of which too much would have to be read. -/
  | boundless
  deriving DecidableEq, Repr

structure AttributeDecl where
  element : String
  name : QName
  /-- The value is one row of characters, in which blanks count. -/
  isText : Bool
  /-- The value of an attribute that is left out, as it is written in the declaration. -/
  defaultValue : Option (List Char)
  deriving DecidableEq, Repr

structure Declarations where
  entities : List (String × EntityValue)
  attributes : List AttributeDecl
  /-- The document depends on nothing outside it. -/
  standalone : Bool
  /-- There are declarations that have not been read. -/
  partly : Bool
  /-- Declarations still count. -/
  counting : Bool
  /-- From how many bytes on too much is read for references. -/
  bound : Nat
  deriving Repr

namespace Declarations

def empty (standalone : Bool) (bound : Nat) : Declarations :=
  ⟨[], [], standalone, false, true, bound⟩

def entity? (d : Declarations) (name : String) : Option EntityValue := d.entities.lookup name

/-- An undeclared entity may have been declared outside. -/
def tolerant (d : Declarations) : Bool := d.partly && !d.standalone

/-- The first declaration of an entity counts. -/
def addEntity (d : Declarations) (name : String) (v : EntityValue) : Declarations :=
  if d.counting && (d.entity? name).isNone then { d with entities := d.entities ++ [(name, v)] }
  else d

/-- Notes a reference to declarations that are not read. -/
def skipOutside (d : Declarations) : Declarations :=
  { d with partly := true, counting := d.counting && d.standalone }

def attribute? (d : Declarations) (element : String) (name : QName) : Option AttributeDecl :=
  d.attributes.find? fun a => a.element = element && a.name = name

/-- The first declaration of an attribute counts. -/
def addAttribute (d : Declarations) (a : AttributeDecl) : Declarations :=
  if d.counting && (d.attribute? a.element a.name).isNone then
    { d with attributes := d.attributes ++ [a] }
  else d

/-- The attributes of an element that have a default value. -/
def defaults (d : Declarations) (element : String) : List AttributeDecl :=
  d.attributes.filter fun a => a.element = element && a.defaultValue.isSome

end Declarations

variable [NameLetters]

/-! ## Growth -/

/-- The names of the entities that a text refers to, as often as it does. -/
def references : List Char → List String
  | [] => []
  | c :: rest =>
    if c = '&' then
      match readReference? rest with
      | some (.entity name, _) => name :: references rest
      | _ => references rest
    else references rest

/-- What is read to replace an entity: the bytes of its own text and the entities it refers to. -/
structure Load where
  name : String
  own : Nat
  inner : List String

def Load.ofEntity? (e : String × EntityValue) : Option Load :=
  match e.2 with
  | .internal text =>
    letI := NameLetters.plain
    some ⟨e.1, text.foldl (fun n c => n + c.utf8Size) 0, references text⟩
  | _ => none

/-- How many bytes are read to replace an entity, by its name. -/
abbrev Weights := Std.HashMap String Nat

/-- Adds up the loads one after the other. What is more than the bound does not matter. -/
def weigh (bound : Nat) (loads : List Load) (known : Weights) : Weights :=
  loads.foldl (fun known l =>
    known.insert l.name (min bound (l.inner.foldl (fun n r => n + known.getD r 0) l.own))) known

/-- The weights after several rounds, each of which counts entities that are referred to before they
are declared. -/
def settledWeights (bound : Nat) (loads : List Load) : (rounds : Nat) → Weights
  | 0 => ∅
  | rounds + 1 => weigh bound loads (settledWeights bound loads rounds)

def maxRounds : Nat := 64

def Declarations.weights (d : Declarations) : Weights :=
  let loads := d.entities.filterMap Load.ofEntity?
  settledWeights d.bound loads (min loads.length maxRounds)

/-- Marks the entities of which too much would have to be read. -/
def Declarations.bounded (d : Declarations) : Declarations :=
  let weights := d.weights
  { d with
    entities := d.entities.map fun (name, v) =>
      (name, if d.bound ≤ weights.getD name 0 then .boundless else v) }

/-- Not too much is read for the references of a text together. -/
def Declarations.bears (d : Declarations) (cs : List Char) : Bool :=
  let weights := d.weights
  (references cs).foldl (fun n name => n + weights.getD name 0) 0 < d.bound

/-! ## Attribute values -/

/-- A value with its references replaced and its blanks made spaces; `expand` gives the replacement
of an entity. -/
def expandValue (expand : String → Option (List Char)) :
    (fuel : Nat) → List Char → Option (List Char)
  | 0, _ => none
  | _, [] => some []
  | fuel + 1, c :: rest =>
    if c = '<' then none
    else if c = '&' then
      match readReference? rest with
      | none => none
      | some (.char d, rest) => (expandValue expand fuel rest).map (d :: ·)
      | some (.entity name, rest) =>
        (expand name).bind fun t => (expandValue expand fuel rest).map (t ++ ·)
    else (expandValue expand fuel rest).map ((if isXmlSpace c then ' ' else c) :: ·)

/-- The replacement of an entity inside a value. Entities nest no deeper than `depth`, so those that
contain themselves have none. Their texts have the plain letters, whatever the document has. -/
def valueOfEntity (d : Declarations) : (depth : Nat) → String → Option (List Char)
  | 0, _ => none
  | depth + 1, name =>
    match d.entity? name with
    | some (.internal text) =>
      letI := NameLetters.plain
      expandValue (valueOfEntity d depth) (text.length + 1) text
    | some _ => none
    | none => if d.tolerant then some [] else none

/-- Leaves one space between words and none around them. -/
def trimSpaces (cs : List Char) : List Char :=
  let rec go : (pending : Bool) → List Char → List Char
    | _, [] => []
    | pending, c :: rest =>
      if c = ' ' then go true rest
      else (if pending then [' ', c] else [c]) ++ go false rest
  go false (cs.dropWhile (· = ' '))

/-- The value of an attribute as it is written in a document or a declaration. -/
def attributeValue? (d : Declarations) (isText : Bool) (written : List Char) : Option (List Char) :=
  (expandValue (valueOfEntity d (d.entities.length + 1)) (written.length + 1) written).map
    fun v => if isText then v else trimSpaces v

end ScriptGateway.Markup
