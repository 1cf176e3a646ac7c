import ScriptGateway.Dictionary.Basic
import ScriptGateway.Fault
import ScriptGateway.OrderedMap
import ScriptGateway.Schema.Kind
import ScriptGateway.Text.Numeral

/-!
# The command table

The commands of a dictionary, reachable by their names in any spelling. A later declaration of a
command replaces an earlier one and keeps its place.
-/

set_option autoImplicit false

namespace ScriptGateway

structure Parameter where
  name : String
  kind : ParameterKind
  optional : Bool
  deriving DecidableEq, Repr

/-- The direct parameter is written without its name. -/
def Parameter.isDirect (p : Parameter) : Bool := p.name = directName

structure Command where
  name : String
  parameters : List Parameter
  deriving DecidableEq, Repr

namespace Command

def required (c : Command) : List Parameter := c.parameters.filter (!·.optional)

def isNameChar (c : Char) : Bool :=
  Text.isAsciiAlnum c || c = ' ' || c = '_' || c = '-'

/-- The shape of a command name: a letter, then letters, digits, spaces, underscores and hyphens. A
line feed at the very end is passed over. -/
def isName (token : String) : Bool :=
  match Text.dropFinalNewline token.toList with
  | c :: rest => Text.isAsciiLetter c && rest.all isNameChar
  | [] => false

def ofDecl (classKeys : List Key) (d : CommandDecl) : Except Fault Command :=
  if !isName d.name then .error (.definition d.name .commandName)
  else if ¬ (d.parameters.map (·.name)).Nodup then .error (.definition d.name .repeatedParameter)
  else .ok ⟨d.name, d.parameters.map fun p => ⟨p.name, .of p.type classKeys, p.optional⟩⟩

end Command

structure CommandTable where
  commands : OrderedMap Key Command
  deriving Repr

namespace CommandTable

def ofDecls (ds : List CommandDecl) (classNames : List String) : Except Fault CommandTable := do
  let commands ← ds.mapM (Command.ofDecl (classNames.map Key.of))
  return ⟨.ofList (commands.map fun c => (Key.of c.name, c))⟩

def lookup? (t : CommandTable) (name : String) : Option Command := t.commands.get? (Key.of name)

end CommandTable

/-- The place for a command table, which is filled once. -/
structure CommandRegistry where
  table? : Option CommandTable
  deriving Repr

namespace CommandRegistry

def empty : CommandRegistry := ⟨none⟩

def isLoaded (r : CommandRegistry) : Bool := r.table?.isSome

def load (r : CommandRegistry) (ds : List CommandDecl) (classNames : List String) :
    Except Fault CommandRegistry :=
  if r.isLoaded then .error (.alreadyLoaded .commands)
  else (CommandTable.ofDecls ds classNames).map fun t => ⟨some t⟩

def lookup? (r : CommandRegistry) (name : String) : Option Command :=
  r.table?.bind (·.lookup? name)

def list (r : CommandRegistry) : List Command :=
  match r.table? with
  | some t => t.commands.values
  | none => []

end CommandRegistry

end ScriptGateway
