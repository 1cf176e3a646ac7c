import ScriptGateway.Command.Table
import ScriptGateway.Naming.Variable
import ScriptGateway.Specifier.Resolve

/-!
# Command calls

A command with values for its parameters, as a line of a script. The parameters are written in the
order of their declaration. A parameter that takes an object is given as a path; the bindings of the
path come before the call, and the call names the variable.
-/

set_option autoImplicit false

namespace ScriptGateway

/-- A validated call. -/
structure Call where
  command : Command
  /-- The bindings that the call relies on. -/
  statements : List String
  line : String
  deriving DecidableEq, Repr

namespace Call

/-- A value as it stands in a script, with the bindings it relies on. -/
structure Argument where
  statements : List String
  literal : String
  deriving DecidableEq, Repr

def refuse {α : Type} (name raw : String) (expected : Expected) : Except Problem α :=
  .error (.refused (.invalidValue name raw expected))

/-- An object given by a path. -/
def object (r : ClassRegistry) (raw stem : String) : Except Problem Argument :=
  (resolve r raw stem).map fun s => ⟨s.statements, s.reference⟩

def argument (r : ClassRegistry) (p : Parameter) (raw : String) : Except Problem Argument :=
  match p.kind with
  | .specifier => object r raw (Naming.variableStem p.name)
  | .boolean => .ok ⟨[], Script.boolLiteral raw⟩
  | .text => .ok ⟨[], Script.textLiteral raw⟩
  | .number => match Script.numberLiteral? raw with
    | some n => .ok ⟨[], n⟩
    | none => refuse p.name raw .number
  | .constant => match Script.bareLiteral? raw with
    | some c => .ok ⟨[], c⟩
    | none => refuse p.name raw .parameterConstant

/-- The arguments for the parameters that have values, each with its parameter. -/
def arguments (r : ClassRegistry) (command : String) (values : OrderedMap String String) :
    List Parameter → Except Problem (List (Parameter × Argument))
  | [] => .ok []
  | p :: rest =>
    match values.get? p.name with
    | none =>
      if p.optional then arguments r command values rest
      else .error (.refused (.missingParameter command p.name))
    | some raw => do
      let a ← argument r p raw
      let more ← arguments r command values rest
      return (p, a) :: more

/-- The words of a call for one argument. -/
def words (pa : Parameter × Argument) : List String :=
  if pa.1.isDirect then [pa.2.literal] else [pa.1.name, pa.2.literal]

def script (c : Call) : String := Script.ofLines (c.statements ++ [c.line])

end Call

/-- The call of a command, named in any spelling, with the values of its parameters. Values for
other names are ignored. -/
def call (classes : ClassRegistry) (commands : CommandRegistry) (name : String)
    (values : OrderedMap String String) : Except Problem Call :=
  match commands.lookup? name with
  | none => .error (.refused (.unknownCommand name))
  | some c => do
    let args ← Call.arguments classes c.name values c.parameters
    return ⟨c, args.flatMap (·.2.statements),
      Text.joinWith " " (c.name :: args.flatMap Call.words)⟩

end ScriptGateway
