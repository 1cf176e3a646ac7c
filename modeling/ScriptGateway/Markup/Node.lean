/-!
# Element trees

What is left of an XML document once it has been read: elements with their attributes and content.
Comments and processing instructions leave nothing. A name that belongs to a namespace is written
as the namespace in braces and the local name.
-/

set_option autoImplicit false

namespace ScriptGateway.Markup

inductive Node
  | element (tag : String) (attributes : List (String × String)) (content : List Node)
  | text (s : String)
  deriving Repr

namespace Node

def isElement : Node → Bool
  | element .. => true
  | text _ => false

def tag : Node → String
  | element t _ _ => t
  | text _ => ""

def attribute? (name : String) : Node → Option String
  | element _ as _ => as.lookup name
  | text _ => none

/-- The elements directly inside a node. -/
def children : Node → List Node
  | element _ _ content => content.filter isElement
  | text _ => []

/-- The elements with the given tag directly inside a node. -/
def childrenNamed (name : String) (n : Node) : List Node :=
  n.children.filter (·.tag = name)

mutual

/-- All elements with the given tag, the node itself included, in the order of their start tags. -/
def descendants (name : String) : Node → List Node
  | element t as content =>
    (if t = name then [element t as content] else []) ++ descendantsOf name content
  | text _ => []

def descendantsOf (name : String) : List Node → List Node
  | [] => []
  | n :: rest => descendants name n ++ descendantsOf name rest

end

/-- The characters directly inside a node. -/
def ownText : Node → String
  | element _ _ content => String.join (content.map fun n => match n with | text s => s | _ => "")
  | text s => s

end Node

end ScriptGateway.Markup
