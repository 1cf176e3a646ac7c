import ScriptGateway.Text.Ranges

/-!
# Blank characters

White space in the sense of Unicode, together with the four information separators, and the
trimming of it from both ends of a text.
-/

set_option autoImplicit false

namespace ScriptGateway.Text

def blankRanges : Ranges := [
  (0x9, 0xD), (0x1C, 0x20), (0x85, 0x85), (0xA0, 0xA0), (0x1680, 0x1680), (0x2000, 0x200A),
  (0x2028, 0x2029), (0x202F, 0x202F), (0x205F, 0x205F), (0x3000, 0x3000)]

def isBlank (c : Char) : Bool := blankRanges.contains c

/-- White space in the strict sense, without the information separators. -/
def isSpace (c : Char) : Bool := isBlank c && !(0x1C ≤ c.toNat && c.toNat ≤ 0x1F)

/-- Removes from the end what `p` holds of. -/
def dropEndWhile (p : Char → Bool) (cs : List Char) : List Char :=
  (cs.reverse.dropWhile p).reverse

/-- Removes from both ends what `p` holds of. -/
def trimWhile (p : Char → Bool) (cs : List Char) : List Char :=
  dropEndWhile p (cs.dropWhile p)

/-- The text without the blanks at its ends. -/
def strip (s : String) : String := String.ofList (trimWhile isBlank s.toList)

/-- A text of blanks only, the empty one included. -/
def blank (s : String) : Bool := s.toList.all isBlank

end ScriptGateway.Text
