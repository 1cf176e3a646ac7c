import ScriptGateway.Payload.Json

/-!
# The grammar of JSON texts

Which rows of characters are JSON texts (RFC 8259), each with the payload that it stands for. Any
token may have gaps around it (`Spaced`), and in a string a character has several forms, of which
one is a pair of escapes for the two halves of its UTF-16 code (`CharForm`). Of several fields with
one name the last one counts.
-/

set_option autoImplicit false

namespace ScriptGateway.Json

open Text Payload

/-! ## Strings -/

/-- Four hexadecimal digits with their value. -/
inductive Hex4 : List Char → Nat → Prop
  | mk {a b c d : Char} {w x y z n : Nat} : hexValue? a = some w → hexValue? b = some x →
      hexValue? c = some y → hexValue? d = some z → n = ((w * 16 + x) * 16 + y) * 16 + z →
      Hex4 [a, b, c, d] n

/-- The letters behind a backslash, with the characters that they stand for. -/
def shortForms : List (Char × Char) :=
  [('"', '"'), ('\\', '\\'), ('/', '/'), ('b', '\x08'), ('f', '\x0C'), ('n', '\n'), ('r', '\r'),
    ('t', '\t')]

/-- How a character may stand in a string. -/
inductive CharForm : List Char → Char → Prop
  /-- As it is. -/
  | plain {c : Char} : c ≠ '"' → c ≠ '\\' → 0x20 ≤ c.toNat → CharForm [c] c
  | short {mark c : Char} : (mark, c) ∈ shortForms → CharForm ['\\', mark] c
  /-- By its code point. -/
  | unit {cs : List Char} {c : Char} : Hex4 cs c.toNat → CharForm ('\\' :: 'u' :: cs) c
  /-- By the two halves of its code. -/
  | pair {high low : List Char} {u v : Nat} {c : Char} : Hex4 high u → Hex4 low v →
      0xD800 ≤ u → u < 0xDC00 → 0xDC00 ≤ v → v < 0xE000 →
      c.toNat = 0x10000 + (u - 0xD800) * 0x400 + (v - 0xDC00) →
      CharForm ('\\' :: 'u' :: (high ++ '\\' :: 'u' :: low)) c

/-- A row of characters, each in one of its forms. -/
inductive Chars : List Char → List Char → Prop
  | nil : Chars [] []
  | cons {form cs ds : List Char} {c : Char} : CharForm form c → Chars cs ds →
      Chars (form ++ cs) (c :: ds)

/-- A string between its quotes. -/
inductive Quoted : List Char → String → Prop
  | mk {cs : List Char} {s : String} : Chars cs s.toList → Quoted ('"' :: (cs ++ ['"'])) s

/-! ## Numbers -/

/-- One or more digits. -/
def Digits (cs : List Char) : Prop := cs ≠ [] ∧ ∀ c ∈ cs, isAsciiDigit c = true

/-- The digits before a point; none but a lone zero begins with a zero. -/
structure Whole (cs : List Char) : Prop where
  digits : Digits cs
  canonical : cs.head? = some '0' → cs = ['0']

def minus (negative : Bool) : List Char := if negative then ['-'] else []

def signed (negative : Bool) (n : Int) : Int := if negative then -n else n

/-- The digits behind a point, if there is one. -/
inductive Fraction : List Char → List Char → Prop
  | absent : Fraction [] []
  | present {digits : List Char} : Digits digits → Fraction ('.' :: digits) digits

/-- An exponent, if there is one, with its value. -/
inductive Exponent : List Char → Int → Prop
  | absent : Exponent [] 0
  | present {mark : Char} {sign digits : List Char} : mark ∈ ['e', 'E'] →
      sign ∈ [[], ['+'], ['-']] → Digits digits →
      Exponent (mark :: (sign ++ digits)) (signed (sign = ['-']) (digitsNat digits))

/-- A number. It is whole when there is neither a point nor an exponent. -/
inductive Number : List Char → Payload → Prop
  | whole {negative : Bool} {digits : List Char} : Whole digits →
      Number (minus negative ++ digits) (.int (signed negative (digitsNat digits)))
  | decimal {negative : Bool} {digits fraction more exponent : List Char} {power : Int} :
      Whole digits → Fraction fraction more → Exponent exponent power →
      fraction ++ exponent ≠ [] →
      Number (minus negative ++ (digits ++ (fraction ++ exponent)))
        (.float (.ofDecimal negative (digitsNat (digits ++ more)) (power - more.length)))

/-! ## Values -/

/-- What may stand around a token. -/
def isGap (c : Char) : Bool := c = ' ' || c = '\t' || c = '\n' || c = '\r'

def Gap (cs : List Char) : Prop := ∀ c ∈ cs, isGap c = true

/-- The name of a field, with gaps around it. -/
inductive Name : List Char → String → Prop
  | mk {lead cs trail : List Char} {k : String} : Gap lead → Quoted cs k → Gap trail →
      Name (lead ++ (cs ++ trail)) k

/-- The fields of an object: names stand where they first came, with the values that came last. -/
def collect (before fields : List (String × Payload)) : List (String × Payload) :=
  fields.foldl (fun fs f => OrderedMap.put f.1 f.2 fs) before

mutual

inductive Value : List Char → Payload → Prop
  | null : Value "null".toList .null
  | bool (b : Bool) : Value (if b then "true".toList else "false".toList) (.bool b)
  | number {cs : List Char} {p : Payload} : Number cs p → Value cs p
  | text {cs : List Char} {s : String} : Quoted cs s → Value cs (.text s)
  | emptyList {gap : List Char} : Gap gap → Value ('[' :: (gap ++ [']'])) (.list [])
  | list {cs : List Char} {items : List Payload} : Items cs items →
      Value ('[' :: (cs ++ [']'])) (.list items)
  | emptyObject {gap : List Char} : Gap gap → Value ('{' :: (gap ++ ['}'])) (.object [])
  | object {cs : List Char} {fields : List (String × Payload)} : Fields cs fields →
      Value ('{' :: (cs ++ ['}'])) (.object (collect [] fields))

/-- A value with gaps around it. -/
inductive Spaced : List Char → Payload → Prop
  | mk {lead cs trail : List Char} {p : Payload} : Gap lead → Value cs p → Gap trail →
      Spaced (lead ++ (cs ++ trail)) p

/-- The items of a list, one at least. -/
inductive Items : List Char → List Payload → Prop
  | one {cs : List Char} {p : Payload} : Spaced cs p → Items cs [p]
  | more {cs rest : List Char} {p : Payload} {items : List Payload} : Spaced cs p →
      Items rest items → Items (cs ++ ',' :: rest) (p :: items)

/-- The fields of an object, one at least. -/
inductive Fields : List Char → List (String × Payload) → Prop
  | one {name cs : List Char} {k : String} {p : Payload} : Name name k → Spaced cs p →
      Fields (name ++ ':' :: cs) [(k, p)]
  | more {name cs rest : List Char} {k : String} {p : Payload}
      {fields : List (String × Payload)} : Name name k → Spaced cs p → Fields rest fields →
      Fields (name ++ ':' :: (cs ++ ',' :: rest)) ((k, p) :: fields)

end

/-- The text is one JSON text, which stands for the payload. -/
def Text (s : String) (p : Payload) : Prop := Spaced s.toList p

end ScriptGateway.Json
