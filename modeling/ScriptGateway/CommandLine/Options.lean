import ScriptGateway.Text.Numeral
import ScriptGateway.Text.Quoted
import ScriptGateway.Text.Similar

/-!
# Options

Reads the words of a command line as options and operands. Long options begin with two hyphens and
may have their value behind an equals sign; short ones begin with one, and a value may follow in the
same word. What comes after two hyphens alone is operands only.
-/

set_option autoImplicit false

namespace ScriptGateway.CommandLine

structure Switch where
  /-- The name in full, hyphens included. -/
  name : String
  letter : Option Char
  takesValue : Bool
  deriving DecidableEq, Repr

/-- What is wrong with a command line. -/
inductive Misuse
  | noSuchOption (name : String) (similar : List String)
  | needsValue (name : String)
  | takesNoValue (name : String)
  | noInteger (option value : String)
  | noSuchFile (option path : String)
  | missingOperand (name : String)
  | extraOperands (words : List String)
  | missingCommand
  | noSuchCommand (name : String) (similar : List String)
  deriving DecidableEq, Repr

namespace Misuse

def suggestion : List String → String
  | [] => ""
  | [one] => " Did you mean " ++ Text.quoted one ++ "?"
  | several =>
    " (Did you mean one of: " ++ Text.joinWith ", " (several.map Text.quoted) ++ "?)"

def invalid (option reason : String) : String :=
  "Invalid value for '" ++ option ++ "': " ++ reason

def message : Misuse → String
  | noSuchOption name similar => "No such option " ++ Text.quoted name ++ "." ++ suggestion similar
  | needsValue name => "Option " ++ Text.quoted name ++ " requires an argument."
  | takesNoValue name => "Option " ++ Text.quoted name ++ " does not take a value."
  | noInteger option value => invalid option (Text.quoted value ++ " is not a valid integer.")
  | noSuchFile option path => invalid option ("Path " ++ Text.quoted path ++ " does not exist.")
  | missingOperand name => "Missing argument '" ++ name ++ "'."
  | extraOperands words =>
    "Got unexpected extra argument" ++ (if words.length = 1 then "" else "s") ++ " ("
      ++ Text.joinWith " " words ++ ")"
  | missingCommand => "Missing command."
  | noSuchCommand name similar =>
    "No such command " ++ Text.quoted name ++ "." ++ suggestion similar

/-- A value that is missing or too much is reported without a reminder of the usage. -/
def showsUsage : Misuse → Bool
  | needsValue _ | takesNoValue _ => false
  | _ => true

end Misuse

/-- An option as given, with its value if it takes one. -/
structure Given where
  option : String
  value : String
  deriving DecidableEq, Repr

/-- The options in the order in which they were given, and the operands. -/
structure Words where
  options : List Given
  operands : List String
  deriving DecidableEq, Repr

namespace Words

def none : Words := ⟨[], []⟩

def withOptions (gs : List Given) (w : Words) : Words := { w with options := gs ++ w.options }

def withOperand (s : String) (w : Words) : Words := { w with operands := s :: w.operands }

/-- The value of an option; the last one counts. -/
def last? (w : Words) (option : String) : Option String :=
  ((w.options.filter (·.option = option)).getLast?).map (·.value)

def has (w : Words) (option : String) : Bool := (w.last? option).isSome

end Words

/-- One word read as options: those that are complete, and the one whose value is the next word,
with the name it was given by. -/
structure Spelled where
  complete : List Given
  pending : Option (String × String)

def optionMark : List Char := ['-', '-']

/-- A word that names a long option. -/
def spellLong (switches : List Switch) (word : List Char) : Except Misuse Spelled :=
  let name := String.ofList (word.takeWhile (· ≠ '='))
  let value? := match word.dropWhile (· ≠ '=') with
    | _ :: value => some (String.ofList value)
    | [] => none
  match switches.find? (·.name = name) with
  | none => .error (.noSuchOption name (Text.similar (switches.map (·.name)) name))
  | some s =>
    match value?, s.takesValue with
    | some v, true => .ok ⟨[⟨name, v⟩], none⟩
    | none, true => .ok ⟨[], some (name, name)⟩
    | some _, false => .error (.takesNoValue name)
    | none, false => .ok ⟨[⟨name, ""⟩], none⟩

/-- The letters of a word of short options. -/
def spellLetters (switches : List Switch) : List Char → Except Misuse Spelled
  | [] => .ok ⟨[], none⟩
  | c :: rest =>
    let name := String.ofList ['-', c]
    match switches.find? (·.letter = some c) with
    | none => .error (.noSuchOption name [])
    | some s =>
      if s.takesValue then
        if rest.isEmpty then .ok ⟨[], some (s.name, name)⟩
        else .ok ⟨[⟨s.name, String.ofList rest⟩], none⟩
      else (spellLetters switches rest).map fun more =>
        ⟨⟨s.name, ""⟩ :: more.complete, more.pending⟩

/-- Reads a word as options, if it is no operand. -/
def spell? (switches : List Switch) (word : String) : Option (Except Misuse Spelled) :=
  match word.toList with
  | '-' :: '-' :: rest => some (spellLong switches ('-' :: '-' :: rest))
  | '-' :: c :: rest => some (spellLetters switches (c :: rest))
  | _ => none

/-- Reads the words of a command line. Unless options and operands may be mixed, everything from the
first operand on is operands. -/
def readWords (switches : List Switch) (mixed : Bool) : List String → Except Misuse Words
  | [] => .ok .none
  | word :: rest =>
    if word = String.ofList optionMark then .ok ⟨[], rest⟩
    else match spell? switches word with
      | none =>
        if mixed then (readWords switches mixed rest).map (·.withOperand word)
        else .ok ⟨[], word :: rest⟩
      | some (.error m) => .error m
      | some (.ok ⟨complete, none⟩) => (readWords switches mixed rest).map (·.withOptions complete)
      | some (.ok ⟨complete, some (option, name)⟩) =>
        match rest with
        | [] => .error (.needsValue name)
        | value :: rest =>
          (readWords switches mixed rest).map (·.withOptions (complete ++ [⟨option, value⟩]))

/-! ## Values -/

/-- A whole number as a person writes it, in the digits of any script. White space around it does not
count. -/
def integer? (s : String) : Option Int :=
  let inner := Text.trimWhile Text.isSpace s.toList
  let negative := inner.head? = some '-'
  let digits := if negative || inner.head? = some '+' then inner.tail else inner
  ((Text.ungrouped? Text.isDigit digits).map (Text.Numeral.mk negative)).bind fun n =>
    n.value.toOption

end ScriptGateway.CommandLine
