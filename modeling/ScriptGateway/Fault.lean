import ScriptGateway.Text.Quoted
import ScriptGateway.Text.Numeral
import ScriptGateway.Text.Join

/-!
# Faults and refusals

What can go wrong, by cause. A refusal is the fault of a request and is answered; a fault keeps the
program from answering. Each has its wording in one function.
-/

set_option autoImplicit false

namespace ScriptGateway

/-! ## Refusals -/

/-- Why a segment of a path leads nowhere. -/
inductive DeadEnd
  | noSegments
  | emptySegment
  | indexBelowOne
  | emptyName
  /-- A property that does not lead to an object stands before the end of the path. -/
  | plainProperty (property owner : String)
  | unknownSegment (owner : String)
  deriving DecidableEq, Repr

def DeadEnd.text : DeadEnd → String
  | noSegments => "path does not address anything"
  | emptySegment => "empty path segment"
  | indexBelowOne => "index out of range; elements are numbered from 1"
  | emptyName => "empty element name"
  | plainProperty property owner =>
    "'" ++ property ++ "' is a property of " ++ owner ++ " and must be the last segment"
  | unknownSegment owner => "not an element or property of " ++ owner

/-- A path that could not be followed: the segment at fault and the path before it. -/
structure Unresolved where
  segment : String
  before : String
  reason : DeadEnd
  deriving DecidableEq, Repr

/-- The kind of value that was expected instead. -/
inductive Expected
  | number
  | integer
  | parameterConstant
  | propertyConstant
  deriving DecidableEq, Repr

def Expected.text : Expected → String
  | number => "a number"
  | integer => "an integer"
  | parameterConstant => "a class name, constant or record"
  | propertyConstant => "a constant, number or record"

/-- Why what a path addresses cannot be read or written as asked. -/
inductive Inaccessible
  | object
  | noValue
  | readOnly (property : String)
  deriving DecidableEq, Repr

def Inaccessible.text : Inaccessible → String
  | object => "path addresses an object, not a property"
  | noValue => "request body has no 'value'"
  | readOnly property => "'" ++ property ++ "' is read-only"

inductive Refusal
  | unresolved (u : Unresolved)
  | unknownCommand (name : String)
  | missingParameter (command parameter : String)
  | invalidValue (name value : String) (expected : Expected)
  | inaccessible (path : String) (reason : Inaccessible)
  deriving DecidableEq, Repr

namespace Wording

def unresolved (segment before reason : String) : String :=
  "Cannot resolve '" ++ segment ++ "' after '" ++ (if before.isEmpty then "/" else before) ++ "': "
    ++ reason

def unknownCommand (name : String) : String := "Unknown command '" ++ name ++ "'"

def missingParameter (command parameter : String) : String :=
  "Command '" ++ command ++ "' requires parameter '" ++ parameter ++ "'"

def invalidValue (name value expected : String) : String :=
  "Invalid value " ++ Text.quoted value ++ " for '" ++ name ++ "': expected " ++ expected

def inaccessible (path reason : String) : String := "Cannot access '" ++ path ++ "': " ++ reason

end Wording

def Unresolved.message (u : Unresolved) : String :=
  Wording.unresolved u.segment u.before u.reason.text

def Refusal.message : Refusal → String
  | unresolved u => u.message
  | unknownCommand name => Wording.unknownCommand name
  | missingParameter command parameter => Wording.missingParameter command parameter
  | invalidValue name value expected => Wording.invalidValue name value expected.text
  | inaccessible path reason => Wording.inaccessible path reason.text

/-! ## Faults -/

/-- What is loaded once. -/
inductive Store
  | classes
  | commands
  | barrier
  deriving DecidableEq, Repr

def Store.text : Store → String
  | classes => "SchemaRegistry"
  | commands => "CommandRegistry"
  | barrier => "SchemaBarrier"

/-- What makes a definition of a dictionary inconsistent. -/
inductive Flaw
  | repeatedClass
  | keyTaken (key owner : String)
  | repeatedProperty (property : String)
  | noRootClass
  | commandName
  | repeatedParameter
  deriving DecidableEq, Repr

def Flaw.text : Flaw → String
  | repeatedClass => "class is declared more than once"
  | keyTaken key owner => "name '" ++ key ++ "' is already used by class '" ++ owner ++ "'"
  | repeatedProperty property => "property '" ++ property ++ "' is declared more than once"
  | noRootClass => "dictionary has no root class"
  | commandName => "command name must be a single path token"
  | repeatedParameter => "parameter names must be unique"

/-- Why a document is not a scripting definition. -/
inductive DocumentFlaw
  | malformed
  | wrongRoot (tag : String)
  | unreadable (reason : String)
  deriving DecidableEq, Repr

def DocumentFlaw.text : DocumentFlaw → String
  | malformed => "not well-formed"
  | wrongRoot tag => "root element is <" ++ tag ++ ">, expected <dictionary>"
  | unreadable reason => reason

/-- Why the encoding that a document names is of no use. -/
inductive EncodingFlaw
  | unknown
  /-- It does not turn bytes into text. -/
  | notText
  /-- Its characters take several bytes. -/
  | wide
  /-- It cannot replace a byte that has no character. -/
  | noReplacement
  /-- It has no characters at all. -/
  | undefined
  /-- It takes ASCII only, and not every byte is. -/
  | beyondAscii
  deriving DecidableEq, Repr

/-- The wording for an encoding of the given name. Of a long name only the first 400 characters are
told where it is no encoding of text. -/
def EncodingFlaw.text (name : String) : EncodingFlaw → String
  | unknown => "unknown encoding: " ++ name
  | notText =>
    "'" ++ String.ofList (name.toList.take 400)
      ++ "' is not a text encoding; use codecs.decode() to handle arbitrary codecs"
  | wide => "multi-byte encodings are not supported"
  | noReplacement =>
    "decoding with '" ++ name
      ++ "' codec failed (UnicodeError: Unsupported error handling replace)"
  | undefined => "decoding with '" ++ name ++ "' codec failed (UnicodeError: undefined encoding)"
  | beyondAscii =>
    "'ascii' codec can't decode byte 0x80 in position 82: ordinal not in range(128)"

/-- A value that does not fit its place: the place, as a path of names and positions, and the kind
of misfit. -/
structure Misfit where
  place : List String
  kind : String
  deriving DecidableEq, Repr

inductive Fault
  | alreadyLoaded (store : Store)
  | notLoaded (store : Store)
  | definition (name : String) (flaw : Flaw)
  | document (source : String) (flaw : DocumentFlaw)
  | encoding (name : String) (flaw : EncodingFlaw)
  /-- A path with a null character, which no file has. -/
  | nullInPath
  | misfits (ms : List Misfit)
  | system (text : String)
  | loadFailed (cause : Fault)
  | unresolved (u : Unresolved)
  | tooLong (t : Text.TooLong)
  | execution (text : String) (code : Option Int)
  | unknownLevel (name : String)
  deriving DecidableEq, Repr

namespace Wording

def alreadyLoaded (store : String) : String := store ++ " has already been loaded"

def notLoaded (store : String) : String := store ++ " is not loaded yet"

def definition (name reason : String) : String :=
  "Invalid definition '" ++ name ++ "': " ++ reason

def document (source reason : String) : String :=
  "Cannot parse scripting definition " ++ source ++ ": " ++ reason

def loadFailed (cause : String) : String := "Scripting dictionary could not be loaded: " ++ cause

def execution (text : String) : Option Int → String
  | none => text
  | some code => text ++ " (code " ++ toString code ++ ")"

end Wording

def Fault.message : Fault → String
  | alreadyLoaded store => Wording.alreadyLoaded store.text
  | notLoaded store => Wording.notLoaded store.text
  | definition name flaw => Wording.definition name flaw.text
  | document source flaw => Wording.document source flaw.text
  | encoding name flaw => flaw.text name
  | nullInPath => "embedded null byte"
  | misfits ms =>
    Text.joinWith "; " (ms.map fun m => Text.joinWith "." m.place ++ ": " ++ m.kind)
  | system text => text
  | loadFailed cause => Wording.loadFailed cause.message
  | unresolved u => u.message
  | tooLong t => t.message
  | execution text code => Wording.execution text code
  | unknownLevel name => "Unknown level: " ++ Text.quoted name

/-- What keeps a value from being computed: a refusal to report or a fault to raise. -/
inductive Problem
  | refused (r : Refusal)
  | fault (f : Fault)
  deriving DecidableEq, Repr

end ScriptGateway
