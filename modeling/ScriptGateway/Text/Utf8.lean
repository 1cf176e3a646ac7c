/-!
# UTF-8

Decoding of bytes. Bytes that are not UTF-8 are either refused (`decode?`) or shown as replacement
characters (`decodeLossy`), one for each longest run that could still have begun a character.
-/

set_option autoImplicit false

namespace ScriptGateway.Text

/-- What a first byte asks for: its own share of the code point, how many bytes follow, and the
bounds of the next one. The narrow bounds shut out overlong forms, surrogates and what lies beyond
the last code point. -/
structure Lead where
  bits : Nat
  more : Nat
  low : Nat
  high : Nat
  deriving DecidableEq, Repr

def lead? (b : Nat) : Option Lead :=
  if b < 0x80 then some ⟨b, 0, 0, 0⟩
  else if b < 0xC2 then none
  else if b < 0xE0 then some ⟨b - 0xC0, 1, 0x80, 0xBF⟩
  else if b = 0xE0 then some ⟨0, 2, 0xA0, 0xBF⟩
  else if b = 0xED then some ⟨0xD, 2, 0x80, 0x9F⟩
  else if b < 0xF0 then some ⟨b - 0xE0, 2, 0x80, 0xBF⟩
  else if b = 0xF0 then some ⟨0, 3, 0x90, 0xBF⟩
  else if b < 0xF4 then some ⟨b - 0xF0, 3, 0x80, 0xBF⟩
  else if b = 0xF4 then some ⟨4, 3, 0x80, 0x8F⟩
  else none

/-- Reads `more` bytes, the next one between `low` and `high`, and adds their shares to `bits`. What
is left comes with the answer, also where the bytes end too early. -/
def readTail : (more low high bits : Nat) → List UInt8 → Option Nat × List UInt8
  | 0, _, _, bits, bs => (some bits, bs)
  | _ + 1, _, _, _, [] => (none, [])
  | m + 1, low, high, bits, b :: bs =>
    if low ≤ b.toNat && b.toNat ≤ high then
      readTail m 0x80 0xBF (bits * 64 + (b.toNat - 0x80)) bs
    else (none, b :: bs)

theorem readTail_length (m low high bits : Nat) (bs : List UInt8) :
    (readTail m low high bits bs).2.length ≤ bs.length := by
  induction m generalizing low high bits bs with
  | zero => simp [readTail]
  | succ m ih =>
    cases bs with
    | nil => simp [readTail]
    | cons b bs =>
      simp only [readTail]
      split
      · exact Nat.le_succ_of_le (ih ..)
      · exact Nat.le_refl _

/-- The characters the bytes spell, with `none` for each run that spells none. -/
def decodeEach : List UInt8 → List (Option Char)
  | [] => []
  | b :: bs =>
    match lead? b.toNat with
    | none => none :: decodeEach bs
    | some l =>
      have := readTail_length l.more l.low l.high l.bits bs
      let r := readTail l.more l.low l.high l.bits bs
      r.1.map Char.ofNat :: decodeEach r.2
termination_by bs => bs.length
decreasing_by
  all_goals simp only [List.length_cons]
  all_goals omega

def decode? (bs : List UInt8) : Option (List Char) := (decodeEach bs).mapM id

/-- Decodes with the replacement character in place of what is not UTF-8. -/
def decodeLossy (bs : List UInt8) : List Char := (decodeEach bs).map (·.getD '\uFFFD')

def encode (s : String) : List UInt8 := s.toUTF8.data.toList

end ScriptGateway.Text
