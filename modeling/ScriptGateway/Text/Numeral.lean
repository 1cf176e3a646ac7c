import ScriptGateway.Text.Blank
import ScriptGateway.Text.Digit

/-!
# Numerals

Signed decimal numerals in the digits of any script, and their values. A numeral of more than
`maxDigits` digits is recognised but not converted, so that reading a number takes bounded time.
-/

set_option autoImplicit false

namespace ScriptGateway.Text

/-- A numeral that is too long to be converted, with the count of its digits. -/
structure TooLong where
  digits : Nat
  deriving DecidableEq, Repr

def maxDigits : Nat := 4300

def TooLong.message (e : TooLong) : String :=
  "Exceeds the limit (" ++ toString maxDigits ++ " digits) for integer string conversion: value has "
    ++ toString e.digits
    ++ " digits; use sys.set_int_max_str_digits() to increase the limit"

/-- An optional sign and one or more decimal digits. -/
structure Numeral where
  negative : Bool
  digits : List Char
  deriving DecidableEq, Repr

/-- The value of a row of digits, the most significant first. -/
def digitsValue (cs : List Char) : Nat :=
  cs.foldl (fun n c => 10 * n + (digitValue? c).getD 0) 0

namespace Numeral

def ofDigits? (negative : Bool) (cs : List Char) : Option Numeral :=
  if !cs.isEmpty && cs.all isDigit then some ⟨negative, cs⟩ else none

/-- Reads a text that is a numeral and nothing else. -/
def ofChars? : List Char → Option Numeral
  | '-' :: cs => ofDigits? true cs
  | '+' :: cs => ofDigits? false cs
  | cs => ofDigits? false cs

def value (n : Numeral) : Except TooLong Int :=
  if n.digits.length > maxDigits then .error ⟨n.digits.length⟩
  else .ok (if n.negative then -(digitsValue n.digits : Int) else digitsValue n.digits)

end Numeral

/-- A row of digits, in which single underscores may stand between two digits, without the
underscores. -/
def ungrouped? (p : Char → Bool) : List Char → Option (List Char)
  | [] => none
  | [c] => if p c then some [c] else none
  | c :: '_' :: rest => if p c then (ungrouped? p rest).map (c :: ·) else none
  | c :: d :: rest => if p c then (ungrouped? p (d :: rest)).map (c :: ·) else none

/-- The text without one line feed at its very end. -/
def dropFinalNewline (cs : List Char) : List Char :=
  if cs.getLast? = some '\n' then cs.dropLast else cs

end ScriptGateway.Text
