import ScriptGateway.Proofs.Script.Enclosure
import ScriptGateway.Proofs.Text.Numerals

/-!
# Strings in scripts

A script is scanned from left to right: a double quote opens a string, in a string a backslash
escapes the character behind it, and the next double quote that is not escaped closes it
(`tokens?`). The characters outside and the strings come back as `Token`s.

What is written as tokens is scanned as these tokens (`tokens?_write`), whatever stands in the
strings, as long as no character outside is a double quote.
-/

set_option autoImplicit false

namespace ScriptGateway.Script

inductive Token
  /-- A character outside strings. -/
  | code (c : Char)
  /-- A string, without its quotes and escapes. -/
  | text (cs : List Char)
  deriving DecidableEq

namespace Token

def text? : Token → Option String
  | code _ => none
  | text cs => some (String.ofList cs)

/-- What the token leaves when strings are blanked out. -/
def outside : Token → Option Char
  | code c => some c
  | text _ => none

def write : Token → List Char
  | code c => [c]
  | text cs => '"' :: (cs.flatMap escapeChar ++ ['"'])

end Token

/-- Scans on from a mode; `read` is the string read so far. There are no tokens when a string is
still open at the end. -/
def scan? : (mode : Mode) → (read : List Char) → List Char → Option (List Token)
  | .code, _, [] => some []
  | .text, _, [] => none
  | .escape, _, [] => none
  | .code, read, c :: rest =>
    if c = '"' then scan? .text [] rest else (scan? .code read rest).map (.code c :: ·)
  | .text, read, c :: rest =>
    if c = '"' then (scan? .code [] rest).map (.text read :: ·)
    else if c = '\\' then scan? .escape read rest
    else scan? .text (read ++ [c]) rest
  | .escape, read, c :: rest => scan? .text (read ++ [c]) rest

/-- The tokens of a script, if every string in it is closed. -/
def tokens? (script : String) : Option (List Token) := scan? .code [] script.toList

/-! ## Reading back what was written -/

theorem scan?_escapeChar (c : Char) (read rest : List Char) :
    scan? .text read (escapeChar c ++ rest) = scan? .text (read ++ [c]) rest := by
  unfold escapeChar
  by_cases hb : c = '\\'
  · simp [hb, scan?]
  · by_cases hq : c = '"'
    · simp [hq, scan?]
    · simp [hb, hq, scan?]

/-- A string is read up to the quote that was written behind it. -/
theorem scan?_text (cs read rest : List Char) :
    scan? .text read (cs.flatMap escapeChar ++ '"' :: rest) =
      (scan? .code [] rest).map (.text (read ++ cs) :: ·) := by
  induction cs generalizing read with
  | nil => simp [scan?]
  | cons c cs ih =>
    rw [List.flatMap_cons, List.append_assoc, scan?_escapeChar, ih, List.append_assoc,
      List.singleton_append]

/-- No character outside the strings is a double quote. -/
def Separable (ts : List Token) : Prop := Token.code '"' ∉ ts

theorem scan?_write {ts : List Token} (h : Separable ts) :
    scan? .code [] (ts.flatMap Token.write) = some ts := by
  induction ts with
  | nil => rfl
  | cons t ts ih =>
    rw [Separable, List.mem_cons, not_or] at h
    have hrest := ih h.2
    cases t with
    | code c =>
      have hc : c ≠ '"' := by
        rintro rfl
        exact h.1 rfl
      simp [Token.write, scan?, hc, hrest]
    | text cs =>
      -- both quotes are the string's own: those in it are behind a backslash
      have hwrite : (Token.text cs :: ts).flatMap Token.write =
          '"' :: (cs.flatMap escapeChar ++ '"' :: ts.flatMap Token.write) := by
        simp [Token.write]
      rw [hwrite, scan?, if_pos rfl, scan?_text, hrest]
      rfl

/-- **Strings stay closed**: written tokens are read back, whatever the strings hold. -/
theorem tokens?_write {script : String} {ts : List Token} (h : Separable ts)
    (hscript : script.toList = ts.flatMap Token.write) : tokens? script = some ts := by
  rw [tokens?, hscript, scan?_write h]

/-! ## Text outside strings -/

/-- A text that opens no string. -/
def Plain (x : String) : Prop := '"' ∉ x.toList

instance (x : String) : Decidable (Plain x) := inferInstanceAs (Decidable (¬ _))

/-- The characters of a text as tokens outside strings. -/
def codes (x : String) : List Token := x.toList.map .code

theorem plain_append {x y : String} : Plain (x ++ y) ↔ Plain x ∧ Plain y := by
  simp [Plain]

theorem plain_toString (n : Nat) : Plain (toString n) := by
  intro hmem
  have hdigit := Text.isDigit_of_mem_toDigits (n := n) (by simpa using hmem)
  exact Text.ne_of_isDigit hdigit (by decide) rfl

theorem separable_append {ts us : List Token} :
    Separable (ts ++ us) ↔ Separable ts ∧ Separable us := by
  simp [Separable]

theorem separable_codes {x : String} : Separable (codes x) ↔ Plain x := by
  simp [Separable, Plain, codes]

theorem write_codes (x : String) : (codes x).flatMap Token.write = x.toList := by
  simp [codes, List.flatMap_map, Token.write]

theorem text?_codes (x : String) : (codes x).filterMap Token.text? = [] := by
  simp [codes, Token.text?]

/-- `textLiteral` writes one string. -/
theorem write_text (x : String) : Token.write (.text x.toList) = (textLiteral x).toList := by
  simp [Token.write, textLiteral]

end ScriptGateway.Script
