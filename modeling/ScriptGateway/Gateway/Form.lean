import ScriptGateway.OrderedMap
import ScriptGateway.Text.Digit
import ScriptGateway.Text.Join
import ScriptGateway.Text.Utf8

/-!
# Forms

Names and values in one line of text, as queries and the bodies of requests carry them. Fields are
separated by ampersands, a plus sign stands for a space, and a percent sign with two hexadecimal
digits for a byte of UTF-8. A percent sign without them stands for itself.
-/

set_option autoImplicit false

namespace ScriptGateway.Form

open Text

/-- The bytes that a name or a value stands for. -/
def componentBytes : List Char → List UInt8
  | [] => []
  | '+' :: rest => 0x20 :: componentBytes rest
  | '%' :: a :: b :: rest =>
    match hexValue? a, hexValue? b with
    | some x, some y => UInt8.ofNat (x * 16 + y) :: componentBytes rest
    | _, _ => 0x25 :: componentBytes (a :: b :: rest)
  | c :: rest => String.utf8EncodeChar c ++ componentBytes rest

/-- A name or a value in clear. What is not UTF-8 shows as replacement characters. -/
def component (cs : List Char) : String := String.ofList (decodeLossy (componentBytes cs))

/-- A field: its name up to the first equals sign, and its value behind it. -/
def field (cs : List Char) : String × String :=
  (component (cs.takeWhile (· ≠ '=')), component ((cs.dropWhile (· ≠ '=')).drop 1))

/-- The fields in order. Nothing between two ampersands is no field. -/
def fields (cs : List Char) : List (String × String) :=
  ((splitAt '&' cs).filter (!·.isEmpty)).map field

/-- The values by their names; of several fields of one name the last one counts. -/
def values (cs : List Char) : OrderedMap String String := .ofList (fields cs)

end ScriptGateway.Form
