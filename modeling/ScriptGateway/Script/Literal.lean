import ScriptGateway.Text.Lower
import ScriptGateway.Text.Numeral

/-!
# Script literals

How the values of a request are written into a script: texts between double quotes, truth values,
numbers, and what is written as it stands (constants, class names and records). The writer of texts
has a reader beside it; main statement: reading a written text gives back the text and what follows
it (`readText?_escape`).
-/

set_option autoImplicit false

namespace ScriptGateway.Script

open Text

/-! ## Texts -/

def escapeChar (c : Char) : List Char :=
  if c = '\\' || c = '"' then ['\\', c] else [c]

/-- A text as a script literal: backslashes and double quotes are escaped. -/
def textLiteral (s : String) : String :=
  String.ofList ('"' :: (s.toList.flatMap escapeChar ++ ['"']))

/-- What a script reads behind an opening quote: the text up to the closing quote, and the rest. -/
def readText? : List Char → Option (List Char × List Char)
  | [] => none
  | '"' :: rest => some ([], rest)
  | '\\' :: c :: rest =>
    let meant? : Option Char :=
      if c = '\\' || c = '"' then some c
      else if c = 'n' then some '\n'
      else if c = 'r' then some '\r'
      else if c = 't' then some '\t'
      else none
    meant?.bind fun d => (readText? rest).map fun p => (d :: p.1, p.2)
  | c :: rest => (readText? rest).map fun p => (c :: p.1, p.2)

theorem readText?_escape (cs rest : List Char) :
    readText? (cs.flatMap escapeChar ++ '"' :: rest) = some (cs, rest) := by
  induction cs with
  | nil => rfl
  | cons c cs ih =>
    by_cases hb : c = '\\'
    · subst hb; simp [escapeChar, readText?, ih]
    · by_cases hq : c = '"'
      · subst hq; simp [escapeChar, readText?, ih]
      · simp [escapeChar, readText?, hb, hq, ih]

/-! ## Truth values -/

/-- Only `true`, in any case and without blanks around it, is true. -/
def boolLiteral (raw : String) : String := if lower raw = "true" then "yes" else "no"

/-! ## Numbers -/

def dropSign : List Char → List Char
  | '+' :: cs => cs
  | '-' :: cs => cs
  | cs => cs

/-- One or more digits and nothing else. -/
def allDigits (cs : List Char) : Bool := !cs.isEmpty && cs.all isDigit

/-- Nothing, or a mark, an optional sign and digits. -/
def isExponent : List Char → Bool
  | [] => true
  | c :: cs => (c = 'e' || c = 'E') && allDigits (dropSign cs)

/-- Digits with an optional point among them or at either end, and an optional exponent. -/
def isMagnitude (cs : List Char) : Bool :=
  let whole := cs.takeWhile isDigit
  match cs.dropWhile isDigit with
  | '.' :: rest =>
    (!whole.isEmpty || !(rest.takeWhile isDigit).isEmpty) && isExponent (rest.dropWhile isDigit)
  | rest => !whole.isEmpty && isExponent rest

/-- The number literal for a value, which is the value without the blanks around it. -/
def numberLiteral? (raw : String) : Option String :=
  if isMagnitude (dropSign (strip raw).toList) then some (strip raw) else none

/-- The integer literal for a value, which is the value without the blanks around it. -/
def integerLiteral? (raw : String) : Option String :=
  if allDigits (dropSign (strip raw).toList) then some (strip raw) else none

/-! ## Constants and records -/

def isBareChar (c : Char) : Bool :=
  isAsciiAlnum c || c = ' ' || c = '.' || c = '_' || c = '+' || c = '-'

/-- Braces around a single line. -/
def isRecord : List Char → Bool
  | '{' :: rest => rest.getLast? = some '}' && rest.all fun c => c ≠ '\r' && c ≠ '\n'
  | _ => false

/-- The literal for a value that is written as it stands: words of a constant or a class name, or a
record, without the blanks around them. -/
def bareLiteral? (raw : String) : Option String :=
  let cs := (strip raw).toList
  if (!cs.isEmpty && cs.all isBareChar) || isRecord cs then some (strip raw) else none

end ScriptGateway.Script
