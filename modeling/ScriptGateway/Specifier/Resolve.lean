import ScriptGateway.Specifier.Chain

/-!
# Following paths

The segments of a path are followed one by one from the application. Where an object is at hand, the
last segment is a property if it names one; any other segment names element classes or a property
that holds an object. Where a collection is at hand, the next segment is an index, a quoted name, a
property of the elements if it is the last segment and names one, or else a bare name.
-/

set_option autoImplicit false

namespace ScriptGateway

namespace Walk

def deadEnd (before : List String) (segment : String) (reason : DeadEnd) : Problem :=
  .refused (.unresolved ⟨segment, Path.along before, reason⟩)

/-- The selection that a segment makes in a collection of `owner`. -/
def element (before : List String) (owner : ClassInfo) (segment : String) (isLast : Bool) :
    Except Problem Selection :=
  match Path.index? segment with
  | .error t => .error (.fault (.tooLong t))
  | .ok (some n) =>
    if n < 1 then .error (deadEnd before segment .indexBelowOne) else .ok (.index n.toNat)
  | .ok none =>
    match Path.quotedName? segment with
    | some name =>
      if name.isEmpty then .error (deadEnd before segment .emptyName) else .ok (.name name)
    | none =>
      match owner.property? segment with
      | some p => .ok (if isLast then .property p else .name segment)
      | none => .ok (.name segment)

/-- The step that a segment makes from an object of class `current`. -/
def member (t : ClassTable) (before : List String) (current : ClassInfo) (segment : String)
    (isLast : Bool) : Except Problem Step :=
  match current.property? segment, isLast with
  | some p, true => .ok ⟨segment, .property p, current⟩
  | p?, _ =>
    match t.elementClass? current segment with
    | some c => .ok ⟨segment, .collection, c⟩
    | none =>
      match p? with
      | none => .error (deadEnd before segment (.unknownSegment current.name))
      | some p =>
        match t.propertyClass? p with
        | some c => .ok ⟨segment, .objectProperty p, c⟩
        | none => .error (deadEnd before segment (.plainProperty p.name current.name))

/-- One step from `current`, which is the class of the object at hand or, if `pending`, of the
elements of the collection at hand. -/
def step (t : ClassTable) (before : List String) (current : ClassInfo) (pending : Bool)
    (segment : String) (isLast : Bool) : Except Problem Step :=
  if Text.blank segment then .error (deadEnd before segment .emptySegment)
  else if pending then
    (element before current segment isLast).map fun sel => ⟨segment, sel, current⟩
  else member t before current segment isLast

/-- The steps along the segments that are left after those `before` them. -/
def steps (t : ClassTable) : (before : List String) → (current : ClassInfo) → (pending : Bool) →
    List String → Except Problem (List Step)
  | _, _, _, [] => .ok []
  | before, current, pending, segment :: rest => do
    let s ← step t before current pending segment rest.isEmpty
    let more ← steps t (before ++ [segment]) s.target s.isCollection rest
    return s :: more

end Walk

/-- Follows a path from the application. -/
def resolve (r : ClassRegistry) (path stem : String) : Except Problem Specifier := do
  let t ← r.table.mapError .fault
  let segs := Path.segments path
  if segs.isEmpty then throw (.refused (.unresolved ⟨"", "", .noSegments⟩))
  let root ← t.root.mapError .fault
  let steps ← Walk.steps t [] root false segs
  return ⟨path, stem, root, steps⟩

/-- The stem of the variables for the object a path itself addresses. -/
def pathStem : String := "obj"

/-- Follows a path where a refusal is a fault. -/
def require (r : ClassRegistry) (path stem : String) : Except Problem Specifier :=
  match resolve r path stem with
  | .error (.refused (.unresolved u)) => .error (.fault (.unresolved u))
  | result => result

end ScriptGateway
