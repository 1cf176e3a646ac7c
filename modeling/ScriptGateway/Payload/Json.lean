import ScriptGateway.Decimal.Shortest
import ScriptGateway.OrderedMap
import ScriptGateway.Payload.Basic
import ScriptGateway.Text.Digit
import ScriptGateway.Text.Quoted

/-!
# JSON

The JSON text of a payload, in ASCII, and the reader of JSON texts (RFC 8259).
-/

set_option autoImplicit false

namespace ScriptGateway.Payload

open Text Decimal

/-! ## Writing -/

def unitEscape (n : Nat) : List Char := '\\' :: 'u' :: hexDigits 4 n

/-- One character of a JSON string. Beyond printable ASCII it is written by its UTF-16 units. -/
def jsonChar (c : Char) : List Char :=
  if c = '"' || c = '\\' then ['\\', c]
  else if c = '\n' then ['\\', 'n']
  else if c = '\r' then ['\\', 'r']
  else if c = '\t' then ['\\', 't']
  else if c = '\x08' then ['\\', 'b']
  else if c = '\x0C' then ['\\', 'f']
  else if 0x20 ≤ c.toNat && c.toNat < 0x7F then [c]
  else if c.toNat < 0x10000 then unitEscape c.toNat
  else
    let n := c.toNat - 0x10000
    unitEscape (0xD800 + n / 0x400) ++ unitEscape (0xDC00 + n % 0x400)

def jsonString (s : String) : List Char := '"' :: (s.toList.flatMap jsonChar ++ ['"'])

def intDigits (n : Int) : List Char :=
  if n < 0 then '-' :: Nat.toDigits 10 n.natAbs else Nat.toDigits 10 n.natAbs

def jsonFloat : Binary64 → List Char
  | .finite s m q => (finiteText s m q).toList
  | .infinite true => "-Infinity".toList
  | .infinite false => "Infinity".toList

mutual

def jsonChars : Payload → List Char
  | null => "null".toList
  | bool b => if b then "true".toList else "false".toList
  | int n => intDigits n
  | float x => jsonFloat x
  | text s => jsonString s
  | list items => '[' :: (jsonItems items ++ [']'])
  | object fields => '{' :: (jsonFields fields ++ ['}'])

def jsonItems : List Payload → List Char
  | [] => []
  | [p] => jsonChars p
  | p :: rest => jsonChars p ++ ',' :: ' ' :: jsonItems rest

def jsonFields : List (String × Payload) → List Char
  | [] => []
  | [(k, p)] => jsonString k ++ ':' :: ' ' :: jsonChars p
  | (k, p) :: rest => jsonString k ++ ':' :: ' ' :: jsonChars p ++ ',' :: ' ' :: jsonFields rest

end

def toJson (p : Payload) : String := String.ofList p.jsonChars

/-! ## Reading -/

def skipSpace (cs : List Char) : List Char :=
  cs.dropWhile fun c => c = ' ' || c = '\t' || c = '\n' || c = '\r'

def hexUnit? (a b c d : Char) : Option Nat := do
  let a ← hexValue? a
  let b ← hexValue? b
  let c ← hexValue? c
  let d ← hexValue? d
  some (((a * 16 + b) * 16 + c) * 16 + d)

def shortEscape? (c : Char) : Option Char :=
  if c = '"' || c = '\\' || c = '/' then some c
  else if c = 'n' then some '\n'
  else if c = 'r' then some '\r'
  else if c = 't' then some '\t'
  else if c = 'b' then some '\x08'
  else if c = 'f' then some '\x0C'
  else none

/-- What stands behind the opening quote of a string: its characters, and the rest behind the
closing quote. A unit of the high half and one of the low half make one character. -/
def readString? : List Char → Option (List Char × List Char)
  | [] => none
  | '"' :: rest => some ([], rest)
  | '\\' :: 'u' :: a :: b :: c :: d :: '\\' :: 'u' :: e :: f :: g :: h :: rest =>
    match hexUnit? a b c d with
    | none => none
    | some u =>
      if 0xD800 ≤ u && u < 0xDC00 then
        match hexUnit? e f g h with
        | none => none
        | some v =>
          if 0xDC00 ≤ v && v < 0xE000 then
            (readString? rest).map fun p =>
              (Char.ofNat (0x10000 + (u - 0xD800) * 0x400 + (v - 0xDC00)) :: p.1, p.2)
          else none
      else if 0xDC00 ≤ u && u < 0xE000 then none
      else
        (readString? ('\\' :: 'u' :: e :: f :: g :: h :: rest)).map fun p =>
          (Char.ofNat u :: p.1, p.2)
  | '\\' :: 'u' :: a :: b :: c :: d :: rest =>
    match hexUnit? a b c d with
    | none => none
    | some u =>
      if 0xD800 ≤ u && u < 0xE000 then none
      else (readString? rest).map fun p => (Char.ofNat u :: p.1, p.2)
  | '\\' :: c :: rest =>
    (shortEscape? c).bind fun d => (readString? rest).map fun p => (d :: p.1, p.2)
  | c :: rest =>
    if c = '\\' || c.toNat < 0x20 then none
    else (readString? rest).map fun p => (c :: p.1, p.2)

def digitsNat (cs : List Char) : Nat := cs.foldl (fun n c => 10 * n + (c.toNat - 48)) 0

/-- The exponent of a number: `none` if there is none, and failure where the mark stands alone. -/
def readExponent? : List Char → Option (Option Int × List Char)
  | c :: cs =>
    if c = 'e' || c = 'E' then
      let negative := cs.head? = some '-'
      let body := if negative || cs.head? = some '+' then cs.tail else cs
      let digits := body.takeWhile isAsciiDigit
      if digits.isEmpty then none
      else
        let n : Int := digitsNat digits
        some (some (if negative then -n else n), body.dropWhile isAsciiDigit)
    else some (none, c :: cs)
  | [] => some (none, [])

/-- A number. Without a point and an exponent it is a whole number of any size. -/
def readNumber? (cs : List Char) : Option (Payload × List Char) :=
  let negative := cs.head? = some '-'
  let cs := if negative then cs.tail else cs
  let whole := cs.takeWhile isAsciiDigit
  let rest := cs.dropWhile isAsciiDigit
  if whole.isEmpty || (whole.head? = some '0' && whole.length > 1) then none
  else
    let fraction := match rest with
      | '.' :: r => some (r.takeWhile isAsciiDigit)
      | _ => none
    if fraction = some [] then none
    else
      let rest := match fraction with
        | some f => rest.drop (f.length + 1)
        | none => rest
      (readExponent? rest).map fun (power, rest) =>
        match fraction, power with
        | none, none =>
          let n : Int := digitsNat whole
          (int (if negative then -n else n), rest)
        | _, _ =>
          let f := fraction.getD []
          (float (.ofDecimal negative (digitsNat (whole ++ f)) (power.getD 0 - f.length)), rest)

/-- Removes a word from the front. -/
def dropWord? (word : List Char) (cs : List Char) : Option (List Char) :=
  if word.isPrefixOf cs then some (cs.drop word.length) else none

mutual

/-- A value and what follows it. The fuel bounds the depth and the number of items together. -/
def readValue? : (fuel : Nat) → List Char → Option (Payload × List Char)
  | 0, _ => none
  | fuel + 1, cs =>
    match skipSpace cs with
    | '"' :: rest => (readString? rest).map fun p => (text (String.ofList p.1), p.2)
    | '[' :: rest =>
      match skipSpace rest with
      | ']' :: rest => some (list [], rest)
      | rest => (readItems? fuel rest).map fun p => (list p.1, p.2)
    | '{' :: rest =>
      match skipSpace rest with
      | '}' :: rest => some (object [], rest)
      | rest => (readFields? fuel [] rest).map fun p => (object p.1, p.2)
    | 'n' :: rest => (dropWord? "ull".toList rest).map fun r => (null, r)
    | 't' :: rest => (dropWord? "rue".toList rest).map fun r => (bool true, r)
    | 'f' :: rest => (dropWord? "alse".toList rest).map fun r => (bool false, r)
    | rest => readNumber? rest

/-- The items of a list, one at least, up to the closing bracket. -/
def readItems? : (fuel : Nat) → List Char → Option (List Payload × List Char)
  | 0, _ => none
  | fuel + 1, cs =>
    (readValue? fuel cs).bind fun (p, rest) =>
      match skipSpace rest with
      | ',' :: rest => (readItems? fuel rest).map fun q => (p :: q.1, q.2)
      | ']' :: rest => some ([p], rest)
      | _ => none

/-- The fields of an object, one at least, added to those `before` them. -/
def readFields? : (fuel : Nat) → (before : List (String × Payload)) → List Char →
    Option (List (String × Payload) × List Char)
  | 0, _, _ => none
  | fuel + 1, before, cs =>
    match skipSpace cs with
    | '"' :: rest =>
      (readString? rest).bind fun (k, rest) =>
        match skipSpace rest with
        | ':' :: rest =>
          (readValue? fuel rest).bind fun (p, rest) =>
            let fields := OrderedMap.put (String.ofList k) p before
            match skipSpace rest with
            | ',' :: rest => readFields? fuel fields rest
            | '}' :: rest => some (fields, rest)
            | _ => none
        | _ => none
    | _ => none

end

/-- Reads a text that is one JSON value. -/
def ofJson? (s : String) : Option Payload :=
  let cs := s.toList
  match readValue? (2 * cs.length + 2) cs with
  | some (p, rest) => if (skipSpace rest).isEmpty then some p else none
  | none => none

end ScriptGateway.Payload
