import ScriptGateway.Dictionary.Bundled
import ScriptGateway.Dictionary.OfFile
import ScriptGateway.Dictionary.OfPayload
import ScriptGateway.FilePath
import ScriptGateway.Script.Run
import ScriptGateway.Text.Numeral

/-!
# Settings

Where the service listens, which application it speaks to, and how. Every setting has a default, may
be given in the environment, and may be overridden; what is given is checked.
-/

set_option autoImplicit false

namespace ScriptGateway

structure Settings where
  host : String
  port : Nat
  application : String
  /-- The file of the scripting definition; without one the bundled dictionary is used. -/
  definition : Option String
  /-- The program that runs scripts. -/
  program : String
  logLevel : String
  deriving DecidableEq, Repr

namespace Settings

def default : Settings where
  host := "127.0.0.1"
  port := 8888
  application := "iTunes"
  definition := none
  program := "osascript"
  logLevel := "INFO"

/-! ## Ports -/

/-- The rest of a numeral after zeros at its front, the last character of which is `last`.
Underscores among the zeros do not count, and a hyphen may follow them. The last zero stays before a
point, and the last character where there is nothing else. -/
def afterZeros? (last : Char) : List Char → Option (List Char)
  | [] => some [last]
  | c :: rest =>
    if c = '0' || c = '_' then afterZeros? c rest
    else if c = '.' then some (last :: c :: rest)
    else if Text.isAsciiDigit c || c = '-' then some (c :: rest)
    else none

/-- The numeral without zeros at its front. -/
def dropZeros? : List Char → Option (List Char)
  | [] => none
  | c :: rest =>
    if c = '0' then afterZeros? c rest
    else if Text.isAsciiDigit c then some (c :: rest)
    else none

/-- The numeral without a point that only zeros follow, at least one. -/
def dropZeroFraction (cs : List Char) : List Char :=
  match cs.dropWhile (· ≠ '.') with
  | _ :: '0' :: zeros => if zeros.all (· = '0') then cs.takeWhile (· ≠ '.') else cs
  | _ => cs

/-- The numeral without underscores, if each stands between two other characters. -/
def dropUnderscores (cs : List Char) : List Char := (Text.ungrouped? (· ≠ '_') cs).getD cs

/-- The value of a row of digits that does not begin with zero, or of a zero. The length counts up
to the first character that is no digit. -/
def plainValue (negative : Bool) (cs : List Char) : Checked Int :=
  let digits := cs.takeWhile Text.isAsciiDigit
  if cs = ['0'] then .ok 0
  else if digits.isEmpty || digits.head? = some '0' then Checked.misfit "int_parsing"
  else if digits.length > Text.maxDigits then Checked.misfit "int_parsing_size"
  else if digits.length < cs.length then Checked.misfit "int_parsing"
  else
    let n : Int := Text.digitsValue digits
    .ok (if negative then -n else n)

/-- The whole number that a text stands for. -/
def wholeNumber (s : String) : Checked Int :=
  let cs := Text.trimWhile Text.isSpace s.toList
  let negative := cs.head? = some '-'
  match (dropZeros? (Script.dropSign cs)).map fun ds => dropUnderscores (dropZeroFraction ds) with
  | none => Checked.misfit "int_parsing"
  | some ('-' :: rest) =>
    if negative then Checked.misfit "int_parsing" else plainValue true rest
  | some rest => plainValue negative rest

/-- The whole number that a binary number equals, if it is not too large. -/
def wholeFloat (x : Decimal.Binary64) : Checked Int :=
  match x, Checked.whole? x with
  | .infinite _, _ => Checked.misfit "finite_number"
  | _, none => Checked.misfit "int_from_float"
  | _, some n => if Checked.isWord n then .ok n else Checked.misfit "int_parsing_size"

def integer : Payload → Checked Int
  | .int n => .ok n
  | .bool b => .ok (if b then 1 else 0)
  | .float x => wholeFloat x
  | .text s => wholeNumber s
  | _ => Checked.misfit "int_type"

def maxPort : Nat := 65535

def portNumber (p : Payload) : Checked Nat :=
  match integer p with
  | .error ms => .error ms
  | .ok n =>
    if n < 1 then Checked.misfit "greater_than_equal"
    else if n > maxPort then Checked.misfit "less_than_equal"
    else .ok n.toNat

def file : Payload → Checked String
  | .text s => .ok (FilePath.plain s)
  | _ => Checked.misfit "path_type"

/-! ## Reading -/

/-- The variables of the environment that settings are read from. -/
def variableNames : List String :=
  ["NTUNES_HOST", "NTUNES_PORT", "NTUNES_APPLICATION", "NTUNES_SDEF", "NTUNES_OSASCRIPT",
    "NTUNES_LOG_LEVEL"]

/-- The value given for a setting: that of the override if there is one, even an empty one, and
otherwise that of the environment. -/
def given (environment overrides : Payload) (name variableName : String) : Payload :=
  match overrides.field? name with
  | some v => v
  | none => (environment.field? variableName).getD .null

/-- Reads one setting; without a value it has its default. -/
def read {α : Type} (environment overrides : Payload) (name variableName : String) (absent : α)
    (check : Payload → Checked α) : Checked α :=
  match given environment overrides name variableName with
  | .null => .ok absent
  | v => (check v).inField name

/-- The settings from an environment and overrides of it, both objects. -/
def ofSources (environment overrides : Payload) : Checked Settings :=
  let setting {α : Type} (name variableName : String) (absent : α) (check : Payload → Checked α) :=
    read environment overrides name variableName absent check
  open Checked in
  apply (apply (apply (apply (apply (apply (.ok Settings.mk)
    (setting "host" "NTUNES_HOST" default.host text))
    (setting "port" "NTUNES_PORT" default.port portNumber))
    (setting "application" "NTUNES_APPLICATION" default.application text))
    (setting "sdef_path" "NTUNES_SDEF" default.definition fun p => (file p).map some))
    (setting "osascript" "NTUNES_OSASCRIPT" default.program text))
    (setting "log_level" "NTUNES_LOG_LEVEL" default.logLevel text)

/-! ## What settings stand for -/

/-- The dictionary to be loaded, where `entry` is what the file of the definition is. -/
def dictionary (s : Settings) (entry : Entry) : Except Fault Dictionary :=
  match s.definition with
  | none => .ok Dictionary.bundled
  | some path => Dictionary.ofEntry path entry

/-- The logging level as the server spells it. -/
def serverLevel (s : Settings) : String := Text.lower s.logLevel

def engine (s : Settings) : Script.Engine := ⟨s.application, s.program⟩

end Settings

end ScriptGateway
