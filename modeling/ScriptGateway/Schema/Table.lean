import ScriptGateway.Dictionary.Basic
import ScriptGateway.Fault
import ScriptGateway.Naming.Plural
import ScriptGateway.OrderedMap
import ScriptGateway.Schema.Kind

/-!
# The class table

The classes of a dictionary with inheritance flattened, reachable by their singular and plural names
in any spelling. Elements and parents are kept as names and looked up when they are needed, so
classes may contain each other.

A table is built in two passes: the first gives each class its keys, the second flattens each class
against all of them.
-/

set_option autoImplicit false

namespace ScriptGateway

/-- A property as the table holds it: its type is sorted into a kind, and the declared type is kept
for the class it may name. -/
structure Property where
  name : String
  kind : PropertyKind
  access : Access
  valueType : String
  deriving DecidableEq, Repr

def Property.writable (p : Property) : Bool := p.access = .readWrite

/-- A class with everything it inherits. -/
structure ClassInfo where
  name : String
  plural : String
  properties : OrderedMap Key Property
  /-- The element classes by their names, each under its singular and its plural key. -/
  elements : OrderedMap Key String
  inherits : Option String
  deriving Repr

/-- The property of the class with the given name, in any spelling. -/
def ClassInfo.property? (c : ClassInfo) (name : String) : Option Property :=
  c.properties.get? (Key.of name)

/-! ## First pass: names -/

/-- The classes read so far, with their plurals, and the owner of each key. -/
structure Roster where
  members : List (ClassDecl × String)
  owners : OrderedMap Key String
  deriving Repr

namespace Roster

def empty : Roster := ⟨[], .empty⟩

/-- The plural a class declares, or the English one when it declares none. -/
def pluralOf (c : ClassDecl) : String :=
  match c.plural with
  | some p => if p.isEmpty then Naming.plural c.name else p
  | none => Naming.plural c.name

def member? (r : Roster) (name : String) : Option (ClassDecl × String) :=
  r.members.find? (·.1.name = name)

/-- Gives a key to a class unless another one has it. -/
def claim (name : String) (owners : OrderedMap Key String) (k : Key) :
    Except Fault (OrderedMap Key String) :=
  match owners.get? k with
  | none => .ok (owners.insert k name)
  | some owner => if owner = name then .ok owners else .error (.definition name (.keyTaken k.text owner))

def enroll (r : Roster) (c : ClassDecl) : Except Fault Roster :=
  if (r.member? c.name).isSome then .error (.definition c.name .repeatedClass)
  else do
    let plural := pluralOf c
    let owners ← claim c.name r.owners (Key.of c.name)
    let owners ← claim c.name owners (Key.of plural)
    return ⟨r.members ++ [(c, plural)], owners⟩

def ofDecls (cs : List ClassDecl) : Except Fault Roster := cs.foldlM enroll empty

def decls (r : Roster) : List ClassDecl := r.members.map (·.1)

end Roster

/-! ## Second pass: inheritance -/

namespace ClassDecl

/-- The ancestors of a class, its parent first, among the classes not visited yet. The walk ends at
a name that is empty, unknown or visited. -/
def ancestors (unvisited : List ClassDecl) (parent : Option String) : List ClassDecl :=
  match parent with
  | none => []
  | some name =>
    if name.isEmpty then []
    else match _h : unvisited.find? (·.name = name) with
      | none => []
      | some c => c :: ancestors (unvisited.erase c) c.inherits
termination_by unvisited.length
decreasing_by
  have hm := List.mem_of_find?_eq_some _h
  have := List.length_erase_of_mem hm
  have := List.length_pos_of_mem hm
  omega

/-- The class and its ancestors. -/
def lineage (all : List ClassDecl) (c : ClassDecl) : List ClassDecl :=
  c :: ancestors (all.filter (·.name ≠ c.name)) c.inherits

end ClassDecl

namespace Flatten

/-- Adds the properties of one class to those of its ancestors, which they replace. -/
def addProperties (owner : String) : (declared : List Key) → List PropertyDecl →
    OrderedMap Key PropertyDecl → Except Fault (OrderedMap Key PropertyDecl)
  | _, [], acc => .ok acc
  | declared, p :: rest, acc =>
    let k := Key.of p.name
    if k ∈ declared then .error (.definition owner (.repeatedProperty p.name))
    else addProperties owner (k :: declared) rest (acc.insert k p)

/-- The properties of a lineage, from the oldest ancestor to the class itself. -/
def properties (eldestFirst : List ClassDecl) : Except Fault (OrderedMap Key PropertyDecl) :=
  eldestFirst.foldlM (fun acc c => addProperties c.name [] c.properties acc) .empty

/-- The element names of a lineage, each once. -/
def elements (eldestFirst : List ClassDecl) : List String :=
  (eldestFirst.flatMap (·.elements)).foldl (fun acc e => if e ∈ acc then acc else acc ++ [e]) []

end Flatten

namespace ClassInfo

/-- Both keys of each element class. Elements of unknown classes are left out. -/
def elementKeys (r : Roster) (names : List String) : OrderedMap Key String :=
  names.foldl (fun acc e =>
    match r.owners.get? (Key.of e) with
    | none => acc
    | some owner =>
      match r.member? owner with
      | none => acc
      | some m => (acc.insert (Key.of owner) owner).insert (Key.of m.2) owner) .empty

def ofMember (r : Roster) (enumerationKeys : List Key) (m : ClassDecl × String) :
    Except Fault ClassInfo := do
  let eldestFirst := (m.1.lineage r.decls).reverse
  let decls ← Flatten.properties eldestFirst
  return {
    name := m.1.name
    plural := m.2
    properties := .ofList (decls.values.map fun p =>
      (Key.of p.name,
        ⟨p.name, .of p.type r.owners.keys enumerationKeys, .of p.access, p.type⟩))
    elements := elementKeys r (Flatten.elements eldestFirst)
    inherits := m.1.inherits }

end ClassInfo

/-! ## The table -/

structure ClassTable where
  classes : List ClassInfo
  owners : OrderedMap Key String
  deriving Repr

namespace ClassTable

/-- The table of the classes, which stand in the order of their declarations. -/
def ofDecls (cs : List ClassDecl) (enumerations : List String) : Except Fault ClassTable := do
  let roster ← Roster.ofDecls cs
  let classes ← roster.members.mapM (ClassInfo.ofMember roster (enumerations.map Key.of))
  return ⟨classes, roster.owners⟩

def named? (t : ClassTable) (name : String) : Option ClassInfo := t.classes.find? (·.name = name)

/-- The class with the given singular or plural name, in any spelling. -/
def lookup? (t : ClassTable) (name : String) : Option ClassInfo :=
  (t.owners.get? (Key.of name)).bind t.named?

/-- The class of the elements that an object of a class contains under the given name. -/
def elementClass? (t : ClassTable) (owner : ClassInfo) (name : String) : Option ClassInfo :=
  (owner.elements.get? (Key.of name)).bind t.named?

/-- The class of the object that a property holds. -/
def propertyClass? (t : ClassTable) (p : Property) : Option ClassInfo :=
  if p.kind = .specifier then t.lookup? p.valueType else none

def rootName : String := "application"

/-- The class of the running application, from which every path starts. -/
def root (t : ClassTable) : Except Fault ClassInfo :=
  match t.lookup? rootName with
  | some c => .ok c
  | none => .error (.definition rootName .noRootClass)

end ClassTable

/-! ## Loading once -/

/-- The place for a class table, which is filled once. -/
structure ClassRegistry where
  table? : Option ClassTable
  deriving Repr

namespace ClassRegistry

def empty : ClassRegistry := ⟨none⟩

def isLoaded (r : ClassRegistry) : Bool := r.table?.isSome

def load (r : ClassRegistry) (cs : List ClassDecl) (enumerations : List String) :
    Except Fault ClassRegistry :=
  if r.isLoaded then .error (.alreadyLoaded .classes)
  else (ClassTable.ofDecls cs enumerations).map fun t => ⟨some t⟩

def lookup? (r : ClassRegistry) (name : String) : Option ClassInfo :=
  r.table?.bind (·.lookup? name)

def list (r : ClassRegistry) : List ClassInfo :=
  match r.table? with
  | some t => t.classes
  | none => []

def table (r : ClassRegistry) : Except Fault ClassTable :=
  match r.table? with
  | some t => .ok t
  | none => .error (.notLoaded .classes)

end ClassRegistry

end ScriptGateway
