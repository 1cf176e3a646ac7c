import ScriptGateway.Dictionary.Basic
import ScriptGateway.Fault
import ScriptGateway.Markup.Reader
import ScriptGateway.OrderedMap
import ScriptGateway.Text.Lower

/-!
# Scripting definitions

Reads a dictionary from the element tree of a scripting definition. A class may be declared in
several suites and extended by class extensions; all of it becomes one declaration. Of several
commands of one name the last one counts.
-/

set_option autoImplicit false

namespace ScriptGateway

open Markup

namespace Definition

/-- An attribute that is there and not empty. -/
def given? (name : String) (n : Node) : Option String :=
  (n.attribute? name).filter (!·.isEmpty)

/-- The type of a declaration: its own attribute, or else the first nested `type` element, or else a
default. -/
def typeOf (n : Node) (absent : String) : String :=
  match given? "type" n with
  | some t => t
  | none => (((n.childrenNamed "type").head?).bind (given? "type")).getD absent

def isYes (value : Option String) : Bool :=
  match value with
  | some v => let w := Text.lower (Text.strip v); w = "yes" || w = "true"
  | none => false

def propertyOf (n : Node) : PropertyDecl :=
  ⟨(n.attribute? "name").getD "", typeOf n "text", (n.attribute? "access").getD "rw"⟩

/-- The class that one element declares or extends. -/
def classOf (name : String) (n : Node) : ClassDecl where
  name := name
  plural := n.attribute? "plural"
  inherits := n.attribute? "inherits"
  properties := (n.childrenNamed "property").map propertyOf
  elements := (n.childrenNamed "element").filterMap (given? "type")

/-- Adds the names that are not there yet, one after the other. -/
def addNew (names : List String) (more : List String) : List String :=
  more.foldl (fun acc e => if e ∈ acc then acc else acc ++ [e]) names

/-- Adds a later declaration of a class to an earlier one. Properties that the earlier one has are
left out. -/
def merge (c d : ClassDecl) : ClassDecl where
  name := c.name
  plural := c.plural.or d.plural
  inherits := c.inherits.or d.inherits
  properties := c.properties ++ d.properties.filter fun p => !(c.properties.map (·.name)).contains p.name
  elements := addNew c.elements d.elements

def addClass (m : OrderedMap String ClassDecl) (d : ClassDecl) : OrderedMap String ClassDecl :=
  match m.get? d.name with
  | none => m.insert d.name d
  | some c => m.insert d.name (merge c d)

def parameterOf (n : Node) : ParameterDecl :=
  ⟨(n.attribute? "name").getD "", typeOf n "text", isYes (n.attribute? "optional")⟩

def directOf (n : Node) : ParameterDecl :=
  ⟨directName, typeOf n "specifier", isYes (n.attribute? "optional")⟩

def commandOf (n : Node) : CommandDecl where
  name := (n.attribute? "name").getD ""
  parameters := ((n.childrenNamed "direct-parameter").head?.map directOf).toList
    ++ (n.childrenNamed "parameter").map parameterOf

/-- The elements directly inside the suites of a document, suite by suite. -/
def items (root : Node) : List Node := (root.descendants "suite").flatMap (·.children)

/-- The items with the given tag that have a value for an attribute, with the value. -/
def itemsWith (tag key : String) (root : Node) : List (String × Node) :=
  ((items root).filter (·.tag = tag)).filterMap fun n => (given? key n).map fun v => (v, n)

end Definition

open Definition

/-- The dictionary that a scripting definition declares. Extensions follow the classes, wherever
they stand. -/
def Dictionary.ofRoot (root : Node) : Dictionary where
  classes := ((itemsWith "class" "name" root ++ itemsWith "class-extension" "extends" root).foldl
    (fun m e => addClass m (classOf e.1 e.2)) .empty).values
  commands := (OrderedMap.ofList
    ((itemsWith "command" "name" root).map fun e => (e.1, commandOf e.2))).values
  enumerations := (itemsWith "enumeration" "name" root).map (·.1)

/-- The tag of the outermost element of a scripting definition. -/
def definitionTag : String := "dictionary"

def Dictionary.ofNode (source : String) (root : Node) : Except Fault Dictionary :=
  if root.tag = definitionTag then .ok (.ofRoot root)
  else .error (.document source (.wrongRoot root.tag))

/-- Reads a scripting definition from its bytes; `source` names it in messages. -/
def Dictionary.ofBytes (source : String) (bs : List UInt8) : Except Fault Dictionary :=
  match readBytes bs with
  | .ok root => Dictionary.ofNode source root
  | .error .malformed => .error (.document source .malformed)
  | .error (.encoding name flaw) => .error (.encoding name flaw)

end ScriptGateway
