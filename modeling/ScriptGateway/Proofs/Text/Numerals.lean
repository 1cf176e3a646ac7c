import Mathlib.Algebra.Group.Nat.Defs
import ScriptGateway.Proofs.Outcome
import ScriptGateway.Text.Numeral

/-!
# Numerals

Which rows of characters are read as numerals (`Numeral.ofChars?_eq_some_iff`), which numerals are
too long to have a value (`Numeral.value_eq_error_iff`), and that a number reads back from its
decimal digits (`Numeral.ofChars?_toDigits`, `digitsValue_toDigits`).
-/

set_option autoImplicit false

namespace ScriptGateway.Text

/-! ## Characters of ASCII -/

theorem isAsciiLetter_eq (c : Char) : isAsciiLetter c = c.isAlpha := by
  have hupper : isAsciiUpper c = c.isUpper := (Bool.decide_and _ _).symm
  have hlower : isAsciiLower c = c.isLower := rfl
  rw [isAsciiLetter, hupper, hlower]
  rfl

theorem isAsciiDigit_eq (c : Char) : isAsciiDigit c = c.isDigit := rfl

theorem isAsciiAlnum_eq (c : Char) : isAsciiAlnum c = c.isAlphanum := by
  rw [isAsciiAlnum, isAsciiLetter_eq, isAsciiDigit_eq]
  rfl

theorem isAsciiDigit_of_mem_toDigits {n : Nat} {c : Char} (h : c ∈ Nat.toDigits 10 n) :
    isAsciiDigit c = true := by
  rw [isAsciiDigit_eq]
  exact Nat.isDigit_of_mem_toDigits (by decide) (by decide) h

/-! ## Digits -/

theorem isDigit_iff {c : Char} :
    isDigit c = true ↔ ∃ z ∈ zeroDigits, z ≤ c.toNat ∧ c.toNat ≤ z + 9 := by
  simp [isDigit, digitValue?]

/-- No digit is blank. -/
theorem isBlank_of_isDigit {c : Char} (h : isDigit c = true) : isBlank c = false := by
  have hapart : ∀ z ∈ zeroDigits, ∀ r ∈ blankRanges, z + 9 < r.1 ∨ r.2 < z := by decide +kernel
  obtain ⟨z, hz, hle, hge⟩ := isDigit_iff.1 h
  rw [← Bool.not_eq_true]
  intro hblank
  obtain ⟨r, hr, hle', hge'⟩ := Ranges.contains_iff.1 hblank
  rcases hapart z hz r hr with hlt | hlt
  · omega
  · omega

theorem ne_of_isDigit {c d : Char} (h : isDigit c = true) (hd : isDigit d = false) : c ≠ d := by
  rintro rfl
  rw [h] at hd
  cases hd

/-- The digits of ASCII come first in the table of zeros. -/
theorem digitValue?_ascii {c : Char} (h : c.isDigit = true) :
    digitValue? c = some (c.toNat - 48) := by
  simp only [Char.isDigit, Bool.and_eq_true, decide_eq_true_eq] at h
  have hle : 48 ≤ c.toNat := h.1
  have hge : c.toNat ≤ 48 + 9 := h.2
  simp [digitValue?, zeroDigits, hle, hge]

theorem isDigit_ascii {c : Char} (h : c.isDigit = true) : isDigit c = true := by
  rw [isDigit, digitValue?_ascii h]
  rfl

theorem isDigit_of_mem_toDigits {n : Nat} {c : Char} (h : c ∈ Nat.toDigits 10 n) :
    isDigit c = true := isDigit_ascii (Nat.isDigit_of_mem_toDigits (by decide) (by decide) h)

theorem foldl_digitValue? {cs : List Char} (h : ∀ c ∈ cs, c.isDigit = true) (m : Nat) :
    cs.foldl (fun k c => 10 * k + (digitValue? c).getD 0) m = Nat.ofDigitChars 10 cs m := by
  induction cs generalizing m with
  | nil => rfl
  | cons c cs ih =>
    rw [List.foldl_cons, digitValue?_ascii (h c (by simp)), ih fun d hd => h d (by simp [hd])]
    rfl

/-- A number is the value of its decimal digits. -/
theorem digitsValue_toDigits (n : Nat) : digitsValue (Nat.toDigits 10 n) = n := by
  have hdigits : ∀ c ∈ Nat.toDigits 10 n, c.isDigit = true :=
    fun c hc => Nat.isDigit_of_mem_toDigits (by decide) (by decide) hc
  rw [digitsValue, foldl_digitValue? hdigits, Nat.ofDigitChars_ten_toDigits]

theorem foldl_digitValue?_lt (cs : List Char) (m : Nat) :
    cs.foldl (fun k c => 10 * k + (digitValue? c).getD 0) m < (m + 1) * 10 ^ cs.length := by
  induction cs generalizing m with
  | nil => simp
  | cons c cs ih =>
    have hdigit : (digitValue? c).getD 0 < 10 := by
      cases hc : digitValue? c with
      | none => decide
      | some d => exact digitValue?_lt hc
    have hnext : 10 * m + (digitValue? c).getD 0 + 1 ≤ 10 * (m + 1) := by omega
    calc (c :: cs).foldl (fun k c => 10 * k + (digitValue? c).getD 0) m
        < (10 * m + (digitValue? c).getD 0 + 1) * 10 ^ cs.length := ih _
      _ ≤ 10 * (m + 1) * 10 ^ cs.length := Nat.mul_le_mul_right _ hnext
      _ = (m + 1) * 10 ^ (c :: cs).length := by
        rw [List.length_cons, Nat.pow_succ, Nat.mul_comm 10, Nat.mul_assoc, Nat.mul_comm 10]

theorem digitsValue_lt (cs : List Char) : digitsValue cs < 10 ^ cs.length := by
  simpa [digitsValue] using foldl_digitValue?_lt cs 0

/-- A whole number is written as its decimal digits, after a minus sign if it is negative. -/
theorem toList_toString_int (n : Int) : (toString n).toList =
    if n < 0 then '-' :: Nat.toDigits 10 n.natAbs else Nat.toDigits 10 n.natAbs := by
  cases n with
  | ofNat n =>
    have hsign : ¬Int.ofNat n < 0 := Int.not_lt.2 (Int.natCast_nonneg n)
    rw [if_neg hsign]
    exact String.toList_ofList
  | negSucc n =>
    rw [if_pos (Int.negSucc_lt_zero n)]
    show ("-" ++ Nat.repr (n + 1)).toList = _
    rw [String.toList_append, Nat.repr]
    exact congrArg (List.cons '-') String.toList_ofList

/-! ## Numerals -/

namespace Numeral

/-- The ways to write the sign of a numeral. -/
def signs (negative : Bool) : List (List Char) := if negative then [['-']] else [[], ['+']]

theorem exists_mem_signs_iff {sign : List Char} :
    (∃ negative, sign ∈ signs negative) ↔ sign ∈ [[], ['+'], ['-']] := by
  simp [signs, Bool.exists_bool, or_assoc]

theorem ofDigits?_eq_some_iff {negative : Bool} {cs : List Char} {n : Numeral} :
    ofDigits? negative cs = some n ↔
      n = ⟨negative, cs⟩ ∧ cs ≠ [] ∧ ∀ c ∈ cs, isDigit c = true := by
  simp only [ofDigits?, Option.ite_none_right_eq_some, Bool.and_eq_true, Bool.not_eq_true',
    List.isEmpty_eq_false_iff, List.all_eq_true, Option.some.injEq]
  constructor
  · rintro ⟨h, rfl⟩
    exact ⟨rfl, h⟩
  · rintro ⟨rfl, h⟩
    exact ⟨h, rfl⟩

/-- The numerals are a sign and one or more digits. -/
theorem ofChars?_eq_some_iff {cs : List Char} {n : Numeral} :
    ofChars? cs = some n ↔ n.digits ≠ [] ∧ (∀ c ∈ n.digits, isDigit c = true) ∧
      ∃ sign ∈ signs n.negative, cs = sign ++ n.digits := by
  constructor
  · intro h
    unfold ofChars? at h
    split at h
    · obtain ⟨rfl, hne, hall⟩ := ofDigits?_eq_some_iff.1 h
      exact ⟨hne, hall, ['-'], by simp [signs], rfl⟩
    · obtain ⟨rfl, hne, hall⟩ := ofDigits?_eq_some_iff.1 h
      exact ⟨hne, hall, ['+'], by simp [signs], rfl⟩
    · obtain ⟨rfl, hne, hall⟩ := ofDigits?_eq_some_iff.1 h
      exact ⟨hne, hall, [], by simp [signs], rfl⟩
  · obtain ⟨negative, digits⟩ := n
    rintro ⟨hne, hall, sign, hsign, rfl⟩
    cases negative with
    | true =>
      obtain rfl : sign = ['-'] := by simpa [signs] using hsign
      exact ofDigits?_eq_some_iff.2 ⟨rfl, hne, hall⟩
    | false =>
      rcases (by simpa [signs] using hsign : sign = [] ∨ sign = ['+']) with rfl | rfl
      · -- the first digit is no sign
        obtain ⟨d, digits, rfl⟩ := List.exists_cons_of_ne_nil hne
        have hd := hall d (by simp)
        have hminus : d ≠ '-' := ne_of_isDigit hd (by decide)
        have hplus : d ≠ '+' := ne_of_isDigit hd (by decide)
        have hplain : ofChars? (d :: digits) = ofDigits? false (d :: digits) := by
          simp [ofChars?, hminus, hplus]
        rw [List.nil_append, hplain]
        exact ofDigits?_eq_some_iff.2 ⟨rfl, hne, hall⟩
      · exact ofDigits?_eq_some_iff.2 ⟨rfl, hne, hall⟩

theorem exists_ofChars?_iff {cs : List Char} {P : List Char → Prop} :
    (∃ n, ofChars? cs = some n ∧ P n.digits) ↔ ∃ sign ∈ [[], ['+'], ['-']], ∃ digits,
      cs = sign ++ digits ∧ digits ≠ [] ∧ (∀ c ∈ digits, isDigit c = true) ∧ P digits := by
  constructor
  · rintro ⟨n, hn, hP⟩
    obtain ⟨hne, hall, sign, hsign, rfl⟩ := ofChars?_eq_some_iff.1 hn
    exact ⟨sign, exists_mem_signs_iff.1 ⟨_, hsign⟩, n.digits, rfl, hne, hall, hP⟩
  · rintro ⟨sign, hsign, digits, rfl, hne, hall, hP⟩
    obtain ⟨negative, hmem⟩ := exists_mem_signs_iff.2 hsign
    exact ⟨⟨negative, digits⟩, ofChars?_eq_some_iff.2 ⟨hne, hall, sign, hmem, rfl⟩, hP⟩

theorem ofChars?_toDigits (n : Nat) :
    ofChars? (Nat.toDigits 10 n) = some ⟨false, Nat.toDigits 10 n⟩ :=
  ofChars?_eq_some_iff.2 ⟨Nat.toDigits_ne_nil, fun _ hc => isDigit_of_mem_toDigits hc, [],
    by simp [signs], rfl⟩

/-- The numeral that a whole number is written as. -/
def ofInt (n : Int) : Numeral := ⟨n < 0, Nat.toDigits 10 n.natAbs⟩

/-- A whole number is the value of its numeral, where that is not too long. -/
theorem value_ofInt {n : Int} (h : (ofInt n).digits.length ≤ maxDigits) :
    (ofInt n).value = .ok n := by
  have hsize : digitsValue (ofInt n).digits = n.natAbs := digitsValue_toDigits n.natAbs
  rw [value, if_neg (Nat.not_lt.2 h), hsize]
  rw [ofInt]
  by_cases hn : n < 0
  · rw [if_pos (decide_eq_true hn), Except.ok.injEq]
    omega
  · rw [if_neg (by simpa using hn), Except.ok.injEq]
    omega

theorem value_eq_error_iff {n : Numeral} {t : TooLong} :
    n.value = .error t ↔ maxDigits < n.digits.length ∧ t = ⟨n.digits.length⟩ := by
  unfold value
  split
  · rename_i h
    simp [h, eq_comm]
  · rename_i h
    simp [h]

theorem exists_value_iff {n : Numeral} :
    (∃ k, n.value = .ok k) ↔ n.digits.length ≤ maxDigits := by
  rw [← not_iff_not, ← Outcome.exists_error_iff, Nat.not_le]
  simp [value_eq_error_iff]

/-- A value is written in no more digits than are converted. -/
theorem length_toDigits_value {n : Numeral} {k : Int} (h : n.value = .ok k) :
    (Nat.toDigits 10 k.natAbs).length ≤ maxDigits := by
  have hlength := exists_value_iff.1 ⟨k, h⟩
  have hk : k.natAbs = digitsValue n.digits := by
    rw [value, if_neg (Nat.not_lt.2 hlength), Except.ok.injEq] at h
    split at h <;> omega
  have hlt : k.natAbs < 10 ^ maxDigits := by
    rw [hk]
    exact Nat.lt_of_lt_of_le (digitsValue_lt _) (Nat.pow_le_pow_right (by decide) hlength)
  exact (Nat.length_toDigits_le_iff (by decide) (by decide)).2 hlt

end Numeral

end ScriptGateway.Text
