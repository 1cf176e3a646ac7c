import ScriptGateway.Path
import ScriptGateway.Schema.Table
import ScriptGateway.Script.Program

/-!
# Specifiers

What a path addresses, as a chain of selections that starts at the application, and how the chain is
written in a script. Each selection of an object binds a variable of its own:

    set obj0 to it
    set obj1 to source 1 of obj0
    set obj2 to playlist "Library" of obj1

A collection is not bound, since an element of it is selected next; only one that ends the chain is.
A property that ends the chain is read from the last variable, or from every element of the
collection before it.
-/

set_option autoImplicit false

namespace ScriptGateway

/-- How a step selects. -/
inductive Selection
  /-- All elements of the class. -/
  | collection
  /-- One element, counted from one. -/
  | index (n : Nat)
  /-- One element by its name. -/
  | name (text : String)
  /-- The object that a property holds. -/
  | objectProperty (p : Property)
  /-- The value of a property; nothing follows it. -/
  | property (p : Property)
  deriving DecidableEq, Repr

def Selection.label : Selection → String
  | collection => "collection"
  | index _ => "index"
  | name _ => "name"
  | objectProperty _ => "object_property"
  | property _ => "property"

/-- One step of a chain: the segment it was read from, the selection, and the class of what is
selected (for a property, the class that has it). -/
structure Step where
  segment : String
  selection : Selection
  target : ClassInfo
  deriving Repr

namespace Step

/-- What is selected, without what it is selected from. -/
def phrase (s : Step) : String :=
  match s.selection with
  | .collection => "every " ++ s.target.name
  | .index n => s.target.name ++ " " ++ toString n
  | .name text => s.target.name ++ " " ++ Script.textLiteral text
  | .objectProperty p => p.name
  | .property p => p.name

/-- The step selects one object, to which a variable is bound. -/
def narrows (s : Step) : Bool :=
  match s.selection with
  | .index _ | .name _ | .objectProperty _ => true
  | .collection | .property _ => false

def isCollection (s : Step) : Bool := s.selection = .collection

def property? (s : Step) : Option Property :=
  match s.selection with
  | .property p => some p
  | _ => none

end Step

/-- `what of whole`. -/
def ofWhole (what whole : String) : String := what ++ " of " ++ whole

/-- A path that has been followed: the class it started from and its steps. The stem is common to
the variables that the script binds. -/
structure Specifier where
  path : String
  stem : String
  root : ClassInfo
  steps : List Step
  deriving Repr

namespace Specifier

def rootExpression : String := "it"

def variableName (stem : String) (n : Nat) : String := stem ++ toString n

/-- The phrases that variables are bound to after the root, each to be read of the variable before
it. -/
def boundPhrases : List Step → List String
  | [] => []
  | [s] => if s.narrows || s.isCollection then [s.phrase] else []
  | s :: t :: rest =>
    if s.narrows then s.phrase :: boundPhrases (t :: rest) else boundPhrases (t :: rest)

/-- The bindings of the phrases, the first of which is read of variable `n`. -/
def bindFrom (stem : String) : (n : Nat) → List String → List Script.Binding
  | _, [] => []
  | n, p :: rest =>
    ⟨variableName stem (n + 1), ofWhole p (variableName stem n)⟩ :: bindFrom stem (n + 1) rest

/-- The bindings of the script, in order. -/
def bindings (s : Specifier) : List Script.Binding :=
  ⟨variableName s.stem 0, rootExpression⟩ :: bindFrom s.stem 0 (boundPhrases s.steps)

def statements (s : Specifier) : List String := s.bindings.map (·.line)

/-- The variable bound last. -/
def current (s : Specifier) : String := variableName s.stem (boundPhrases s.steps).length

/-- The last step; the root counts as no step. -/
def last? (s : Specifier) : Option Step := s.steps.getLast?

/-- The property that ends the chain. -/
def property? (s : Specifier) : Option Property := s.last?.bind (·.property?)

def isProperty (s : Specifier) : Bool := s.property?.isSome

/-- The class of what is addressed. -/
def target (s : Specifier) : ClassInfo :=
  match s.last? with
  | some t => t.target
  | none => s.root

/-- The collection that ends a row of steps, as an expression. -/
def collectionBefore? : List Step → Option String
  | [] => none
  | [s] => if s.isCollection then some s.phrase else none
  | _ :: t :: rest => collectionBefore? (t :: rest)

/-- What a property that ends the chain is read from. -/
def subject (s : Specifier) : String :=
  if s.isProperty then
    match collectionBefore? s.steps.dropLast with
    | some every => ofWhole every s.current
    | none => s.current
  else s.current

/-- The expression for what is addressed. -/
def reference (s : Specifier) : String :=
  match s.property? with
  | some p => ofWhole p.name s.subject
  | none => s.current

/-- Each step with its expression, which names the variable bound before it where one is used; `n`
variables have been bound after the root. -/
def expressions (stem : String) : (n : Nat) → List Step → List (Step × String)
  | _, [] => []
  | n, s :: rest =>
    if s.narrows then
      (s, ofWhole s.phrase (variableName stem n)) :: expressions stem (n + 1) rest
    else (s, s.phrase) :: expressions stem n rest

end Specifier

end ScriptGateway
