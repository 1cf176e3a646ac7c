import ScriptGateway.CommandLine.Options
import ScriptGateway.Gateway.Route
import ScriptGateway.Settings
import ScriptGateway.Text.ControlSequence
import ScriptGateway.Text.Upper

/-!
# The command line

Two commands: `compile` prints the script for a path or a command call without running it, and
`serve` runs the service. What a command line comes to is computed from its words, the environment
and the file it names.
-/

set_option autoImplicit false

namespace ScriptGateway.CommandLine

/-! ## Commands -/

/-- Which part of the program a word is addressed to. -/
inductive Scope
  | program
  | compile
  | serve
  deriving DecidableEq, Repr

namespace Scope

def name : Scope → String
  | program => "main"
  | compile => "main compile"
  | serve => "main serve"

def usage : Scope → String
  | program => "Usage: main [OPTIONS] COMMAND [ARGS]..."
  | compile => "Usage: main compile [OPTIONS] TARGET"
  | serve => "Usage: main serve [OPTIONS]"

def help : Switch := ⟨"--help", none, false⟩

def definition : Switch := ⟨"--sdef", none, true⟩

def port : Switch := ⟨"--port", none, true⟩

def switches : Scope → List Switch
  | program => [help]
  | compile => [⟨"--param", some 'p', true⟩, definition, ⟨"--command", none, false⟩, help]
  | serve => [⟨"--host", none, true⟩, port, ⟨"--application", none, true⟩, definition,
      ⟨"--log-level", none, true⟩, help]

/-- The command of the given name. -/
def named? (word : String) : Option Scope :=
  if word = "compile" then some compile else if word = "serve" then some serve else none

def commandNames : List String := ["compile", "serve"]

/-- Options of the program itself stand before the command, those of a command anywhere. -/
def read (s : Scope) (words : List String) : Except Misuse Words :=
  readWords s.switches (s ≠ program) words

end Scope

/-- A misuse, and where it happened. -/
structure Mishap where
  scope : Scope
  misuse : Misuse
  deriving DecidableEq, Repr

/-- The words for one command, or a request for help. -/
inductive Invocation
  | help (scope : Scope)
  | command (scope : Scope) (words : Words)
  deriving Repr

namespace Invocation

/-- Picks the command that the first operand names. A name that looks like an option is read as one
first, which then tells what is wrong with it. -/
def pick (operands : List String) : Except Mishap Invocation :=
  match operands with
  | [] => .error ⟨.program, .missingCommand⟩
  | word :: rest =>
    match Scope.named? word with
    | some s =>
      match s.read rest with
      | .error m => .error ⟨s, m⟩
      | .ok w => .ok (if w.has Scope.help.name then .help s else .command s w)
    | none =>
      match Scope.program.read operands with
      | .error m => .error ⟨.program, m⟩
      | .ok w =>
        if w.has Scope.help.name then .ok (.help .program)
        else .error ⟨.program,
          .noSuchCommand word (Text.similar Scope.commandNames word)⟩

def read (words : List String) : Except Mishap Invocation :=
  match Scope.program.read words with
  | .error m => .error ⟨.program, m⟩
  | .ok w => if w.has Scope.help.name then .ok (.help .program) else pick w.operands

end Invocation

/-- The file that a command line names as the scripting definition. -/
def definition? (words : List String) : Option String :=
  match Invocation.read words with
  | .ok (.command _ w) => w.last? Scope.definition.name
  | _ => none

/-! ## Outcomes -/

/-- What a command line comes to. What is printed is as shown where there is no terminal. -/
structure Outcome where
  status : Nat
  stdout : String
  stderr : String
  /-- The settings with which the service was started. -/
  served : List Settings
  /-- A fault that is no matter of the program. -/
  escaped : Option Fault
  deriving Repr

namespace Outcome

def printed (text : String) : Outcome := ⟨0, Text.shown (text ++ "\n"), "", [], none⟩

def failed (message : String) : Outcome :=
  ⟨1, "", Text.shown ("Error: " ++ message ++ "\n"), [], none⟩

def escape (f : Fault) : Outcome := ⟨1, "", "", [], some f⟩

def serving (s : Settings) : Outcome := ⟨0, "", "", [s], none⟩

def ofMishap (m : Mishap) : Outcome :=
  let reminder :=
    if m.misuse.showsUsage then
      m.scope.usage ++ "\nTry '" ++ m.scope.name ++ " --help' for help.\n\n"
    else ""
  ⟨2, "", Text.shown (reminder ++ "Error: " ++ m.misuse.message ++ "\n"), [], none⟩

end Outcome

/-- The faults of dictionaries, paths and scripts are reported; others are not expected. -/
def isReported : Fault → Bool
  | .alreadyLoaded _ | .notLoaded _ | .definition .. | .document .. | .loadFailed _
  | .unresolved _ | .execution .. => true
  | .encoding .. | .nullInPath | .misfits _ | .system _ | .tooLong _ | .unknownLevel _ => false

def Outcome.ofFault (f : Fault) : Outcome :=
  if isReported f then .failed f.message else .escape f

/-! ## Checks -/

/-- What keeps a command from being run. -/
inductive Hindrance
  | misuse (m : Misuse)
  | fault (f : Fault)
  deriving DecidableEq, Repr

/-- What is wrong with an option, going by its last value. -/
def hindranceOf (entry : Entry) (w : Words) (option : String) : Option Hindrance :=
  match w.last? option with
  | none => none
  | some value =>
    if option = Scope.definition.name then
      if hasNull value then some (.fault .nullInPath)
      else if entry.exists then none
      else some (.misuse (.noSuchFile option value))
    else if option = Scope.port.name then
      if (integer? value).isSome then none else some (.misuse (.noInteger option value))
    else none

/-- The first hindrance, in the order in which the options were given. -/
def firstHindrance (entry : Entry) (w : Words) : Option Hindrance :=
  (w.options.map (·.option)).findSome? (hindranceOf entry w)

/-! ## Compiling -/

/-- The parameters of a command call; a word without an equals sign is none. -/
def parameters (w : Words) : OrderedMap String String :=
  .ofList ((w.options.filter (·.option = "--param")).filterMap fun g =>
    let cs := g.value.toList
    match cs.dropWhile (· ≠ '=') with
    | _ :: value => some (String.ofList (cs.takeWhile (· ≠ '=')), String.ofList value)
    | [] => none)

/-- The script for a target: a call of the command of that name, or the value at that path. A path
may also address an object here. -/
def scriptFor (r : Registries) (w : Words) (target : String) : Except Problem String :=
  if w.has "--command" then
    (call r.classes r.commands target (parameters w)).map (·.script)
  else (require r.classes target pathStem).map (·.readScript)

def override (w : Words) (option : String) : Payload :=
  match w.last? option with
  | some v => .text v
  | none => .null

/-- Prints the script for a target, addressed to the application of the settings. -/
def preview (s : Settings) (entry : Entry) (w : Words) (target : String) : Outcome :=
  match s.dictionary entry with
  | .error f => .ofFault f
  | .ok d =>
    match Registries.empty.load d with
    | (_, some f) => .ofFault f
    | (r, none) =>
      match scriptFor r w target with
      | .ok script => .printed (Script.tell script s.application)
      | .error (.refused refusal) => .failed refusal.message
      | .error (.fault f) => .ofFault f

def compile (environment : Payload) (entry : Entry) (w : Words) (target : String) : Outcome :=
  match Settings.ofSources environment (.object [("sdef_path", override w "--sdef")]) with
  | .error ms => .escape (.misfits ms)
  | .ok s => preview s entry w target

/-! ## Serving -/

def levels : List String :=
  ["CRITICAL", "FATAL", "ERROR", "WARN", "WARNING", "INFO", "DEBUG", "NOTSET"]

def portOverride (w : Words) : Payload :=
  match (w.last? Scope.port.name).bind integer? with
  | some n => .int n
  | none => .null

/-- The overrides of the settings by the options of `serve`. Where there is no option the default
comes back, whatever the environment says. -/
def serveOverrides (w : Words) : Payload :=
  .object [("host", override w "--host"), ("port", portOverride w),
    ("application", override w "--application"), ("sdef_path", override w "--sdef"),
    ("log_level", override w "--log-level")]

def serve (environment : Payload) (w : Words) : Outcome :=
  match Settings.ofSources environment (serveOverrides w) with
  | .error ms => .escape (.misfits ms)
  | .ok s =>
    let level := Text.upper s.logLevel
    if level ∈ levels then .serving s else .escape (.unknownLevel level)

/-! ## Running -/

/-- Runs a command of which the words have been read. -/
def perform (environment : Payload) (entry : Entry) (scope : Scope) (w : Words) : Outcome :=
  match firstHindrance entry w, scope, w.operands with
  | some (.misuse m), _, _ => .ofMishap ⟨scope, m⟩
  | some (.fault f), _, _ => .escape f
  | none, .compile, [] => .ofMishap ⟨scope, .missingOperand "TARGET"⟩
  | none, .compile, [target] => compile environment entry w target
  | none, .compile, _ :: extra => .ofMishap ⟨scope, .extraOperands extra⟩
  | none, _, [] => serve environment w
  | none, _, extra => .ofMishap ⟨scope, .extraOperands extra⟩

/-- What a command line comes to; `entry` is what the file is that it names. -/
def run (environment : Payload) (entry : Entry) (words : List String) : Outcome :=
  if words.isEmpty then ⟨2, "", Scope.program.usage ++ "\n", [], none⟩
  else match Invocation.read words with
    | .error m => .ofMishap m
    | .ok (.help s) => ⟨0, s.usage ++ "\n", "", [], none⟩
    | .ok (.command s w) => perform environment entry s w

end ScriptGateway.CommandLine
