import ScriptGateway.Specifier.Resolve

/-!
# Building a script along the way

A path is followed and its script is built in one pass. A `Builder` grows by the lines of the script,
which bind variables numbered by a counter, and by the steps, each recorded with its expression. A
`Progress` is what is known between two segments: the builder, the class of the object at hand, the
collection that no element has been selected of yet, and the property that has ended the path. What
there is at the end is a `Resolved`.

`resolve` gives the steps alone, of which a `Specifier` has the lines, the variables and the
expressions as functions.
-/

set_option autoImplicit false

namespace ScriptGateway

/-- A step as it is recorded: how it selects, the segment it was read from, its expression and the
name of its class. -/
structure Record where
  kind : String
  segment : String
  expression : String
  className : String
  deriving DecidableEq, Repr

def Record.root (c : ClassInfo) : Record := ⟨"root", "", Specifier.rootExpression, c.name⟩

def Step.record (s : Step) (expression : String) : Record :=
  ⟨s.selection.label, s.segment, expression, s.target.name⟩

/-! ## Lines and records -/

/-- The script of a path so far. The variable bound last is the current one. -/
structure Builder where
  stem : String
  statements : List String
  records : List Record
  counter : Nat
  current : String
  deriving DecidableEq, Repr

namespace Builder

/-- Binds the next variable. -/
def bind (b : Builder) (expression : String) : Builder :=
  let name := Specifier.variableName b.stem b.counter
  { b with
    statements := b.statements ++ [Script.assign name expression]
    counter := b.counter + 1
    current := name }

def record (b : Builder) (s : Step) (expression : String) : Builder :=
  { b with records := b.records ++ [s.record expression] }

/-- Binds the next variable to what a step selects of the current one. -/
def narrow (b : Builder) (s : Step) : Builder :=
  let expression := ofWhole s.phrase b.current
  (b.bind expression).record s expression

/-- The root is bound and recorded before any step. -/
def start (stem : String) (root : ClassInfo) : Builder :=
  { bind ⟨stem, [], [], 0, ""⟩ Specifier.rootExpression with records := [.root root] }

end Builder

/-! ## Paths -/

/-- What a path has come to: the steps as recorded, the lines that bind variables, the variable bound
last, what a property at the end is read from, the class of what is addressed, and the property. -/
structure Resolved where
  path : String
  records : List Record
  statements : List String
  current : String
  subject : String
  target : ClassInfo
  terminal? : Option Property
  deriving Repr

namespace Resolved

def isProperty (s : Resolved) : Bool := s.terminal?.isSome

/-- The expression for what is addressed. -/
def reference (s : Resolved) : String :=
  match s.terminal? with
  | some p => ofWhole p.name s.subject
  | none => s.current

end Resolved

/-- What is known of a path between two of its segments. -/
structure Progress where
  builder : Builder
  current : ClassInfo
  pending? : Option ClassInfo
  terminal? : Option Property
  subject : String
  deriving Repr

namespace Progress

def start (stem : String) (root : ClassInfo) : Progress :=
  let b := Builder.start stem root
  ⟨b, root, none, none, b.current⟩

/-- The class of the object at hand or of the elements of the collection at hand. -/
def atHand (w : Progress) : ClassInfo := w.pending?.getD w.current

/-- What stands at hand, as an expression: the object bound last, or all of the collection that no
element has been selected of. -/
def whole (w : Progress) : String :=
  match w.pending? with
  | some c => ofWhole ("every " ++ c.name) w.builder.current
  | none => w.builder.current

/-- One step on. A collection is left pending; anything selected of it takes its place. -/
def take (w : Progress) (s : Step) : Progress :=
  match s.selection with
  | .collection => { w with builder := w.builder.record s s.phrase, pending? := some s.target }
  | .index _ | .name _ | .objectProperty _ =>
    { w with builder := w.builder.narrow s, current := s.target, pending? := none }
  | .property p =>
    ⟨w.builder.record s s.phrase, s.target, none, some p, w.whole⟩

/-- Follows the segments that are left after those `before` them. -/
def follow (t : ClassTable) :
    (before : List String) → Progress → List String → Except Problem Progress
  | _, w, [] => .ok w
  | before, w, segment :: rest => do
    let s ← Walk.step t before w.atHand w.pending?.isSome segment rest.isEmpty
    follow t (before ++ [segment]) (w.take s) rest

/-- The builder at the end of a path. A collection that is still pending is what the path addresses,
and is bound. -/
def closed (w : Progress) : Builder :=
  if w.pending?.isSome then w.builder.bind w.whole else w.builder

def finish (w : Progress) (path : String) : Resolved where
  path := path
  records := w.closed.records
  statements := w.closed.statements
  current := w.closed.current
  subject := if w.terminal?.isSome then w.subject else w.closed.current
  target := w.atHand
  terminal? := w.terminal?

end Progress

/-- Follows a path from the application and builds its script along the way. -/
def build (r : ClassRegistry) (path stem : String) : Except Problem Resolved := do
  let t ← r.table.mapError .fault
  let segs := Path.segments path
  if segs.isEmpty then throw (.refused (.unresolved ⟨"", "", .noSegments⟩))
  let root ← t.root.mapError .fault
  let w ← Progress.follow t [] (.start stem root) segs
  return w.finish path

end ScriptGateway
