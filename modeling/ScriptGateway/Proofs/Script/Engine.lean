import ScriptGateway.Proofs.Outcome
import ScriptGateway.Proofs.Text.Numerals
import ScriptGateway.Proofs.Text.Trimming
import ScriptGateway.Script.Run

/-!
# Reports of the engine

The number of an error stands in parentheses at the end of what the engine reports
(`Run.finalNumber?_eq_some_iff`), whatever else the report contains: a run that failed is a fault
with that number, or with its exit status where there is none (`Run.result_of_failed`). A run gives
a value or reports a fault of execution, unless the number is too long to be converted
(`Run.result_settles_iff`).
-/

set_option autoImplicit false

namespace ScriptGateway.Script.Run

open Text

/-- How the sign of an error number is written. -/
def signOf (negative : Bool) : List Char := if negative then ['-'] else []

/-- The digits before a closing parenthesis are read back from the end. -/
theorem span_digits {digits : List Char} {c : Char} (rest : List Char)
    (hdigits : ∀ d ∈ digits, isDigit d = true) (hc : isDigit c = false) :
    (digits.reverse ++ c :: rest).takeWhile isDigit = digits.reverse ∧
      (digits.reverse ++ c :: rest).dropWhile isDigit = c :: rest :=
  span_append (by simpa using hdigits) (by simpa using hc)

theorem finalNumber?_eq_some_iff {cs : List Char} {n : Numeral} :
    finalNumber? cs = some n ↔ n.digits ≠ [] ∧ (∀ c ∈ n.digits, isDigit c = true) ∧
      ∃ front, cs = front ++ '(' :: (signOf n.negative ++ n.digits ++ [')']) := by
  constructor
  · intro h
    unfold finalNumber? at h
    split at h
    · rename_i rest hrev
      have hparts : rest.takeWhile isDigit ++ rest.dropWhile isDigit = rest :=
        List.takeWhile_append_dropWhile
      have hcs : cs = (rest.dropWhile isDigit).reverse ++
          ((rest.takeWhile isDigit).reverse ++ [')']) := by
        rw [← List.append_assoc, ← List.reverse_append, hparts, ← List.reverse_cons, ← hrev,
          List.reverse_reverse]
      have hall : ∀ c ∈ (rest.takeWhile isDigit).reverse, isDigit c = true := by
        intro c hc
        exact List.mem_takeWhile_imp (List.mem_reverse.1 hc)
      simp only [List.isEmpty_iff] at h
      split at h
      · cases h
      · rename_i hne
        split at h
        · rename_i front hdrop
          cases h
          exact ⟨hne, hall, front.reverse, by rw [hcs, hdrop]; simp [signOf]⟩
        · rename_i front hdrop
          cases h
          exact ⟨hne, hall, front.reverse, by rw [hcs, hdrop]; simp [signOf]⟩
        · cases h
    · cases h
  · obtain ⟨negative, digits⟩ := n
    rintro ⟨hne, hall, front, rfl⟩
    have hopen : isDigit '(' = false := by decide
    have hminus : isDigit '-' = false := by decide
    cases negative with
    | true =>
      obtain ⟨htake, hdrop⟩ := span_digits ('(' :: front.reverse) hall hminus
      simp [finalNumber?, signOf, htake, hdrop, hne]
    | false =>
      obtain ⟨htake, hdrop⟩ := span_digits front.reverse hall hopen
      simp [finalNumber?, signOf, htake, hdrop, hne]

/-- The text ends in a number in parentheses. -/
def EndsInNumber (cs : List Char) : Prop :=
  ∃ front negative digits, cs = front ++ '(' :: (signOf negative ++ digits ++ [')']) ∧
    digits ≠ [] ∧ ∀ c ∈ digits, isDigit c = true

theorem finalNumber?_eq_none_iff {cs : List Char} :
    finalNumber? cs = none ↔ ¬EndsInNumber cs := by
  rw [Option.eq_none_iff_forall_ne_some]
  constructor
  · rintro h ⟨front, negative, digits, hcs, hne, hall⟩
    exact h ⟨negative, digits⟩ (finalNumber?_eq_some_iff.2 ⟨hne, hall, front, hcs⟩)
  · intro h n hn
    obtain ⟨hne, hall, front, hcs⟩ := finalNumber?_eq_some_iff.1 hn
    exact h ⟨front, n.negative, n.digits, hcs, hne, hall⟩

/-! ## Reports -/

/-- How the number of an error is written at the end of a report. -/
def parenthesised (n : Int) : List Char := '(' :: ((toString n).toList ++ [')'])

theorem parenthesised_eq (n : Int) :
    parenthesised n = '(' :: (signOf (decide (n < 0)) ++ Nat.toDigits 10 n.natAbs ++ [')']) := by
  rw [parenthesised, toList_toString_int]
  by_cases hn : n < 0
  · simp [hn, signOf]
  · simp [hn, signOf]

/-- The number at the end of a text is found behind any other parentheses and digits. -/
theorem finalNumber?_append_parenthesised (front : List Char) (n : Int) :
    finalNumber? (front ++ parenthesised n) = some (Numeral.ofInt n) :=
  finalNumber?_eq_some_iff.2 ⟨Nat.toDigits_ne_nil, fun _ hc => isDigit_of_mem_toDigits hc, front,
    by rw [parenthesised_eq]; rfl⟩

/-- Blanks around a report are stripped, and none of its number. -/
theorem toList_strip_report (message blanks : String) (n : Int) (hblanks : blank blanks = true) :
    (strip (message ++ "(" ++ toString n ++ ")" ++ blanks)).toList =
      message.toList.dropWhile isBlank ++ parenthesised n := by
  have hopen : isBlank '(' = false := by decide
  have hclose : isBlank ')' = false := by decide
  have hreport : (message ++ "(" ++ toString n ++ ")" ++ blanks).toList =
      message.toList ++ parenthesised n ++ blanks.toList := by
    simp [parenthesised]
  have hends : parenthesised n = ('(' :: (toString n).toList) ++ [')'] := rfl
  have htrim := trimWhile_append (p := isBlank) hends hopen hends hclose message.toList
    blanks.toList
  rw [strip, String.toList_ofList, hreport, htrim,
    dropEndWhile_eq_nil (List.all_eq_true.1 hblanks), List.append_nil]

theorem errorNumber_of_report {r : Run} {front : List Char} {n : Int}
    (hstderr : (strip r.stderr).toList = front ++ parenthesised n)
    (hlength : (Nat.toDigits 10 n.natAbs).length ≤ maxDigits) : r.errorNumber = .ok (some n) := by
  rw [errorNumber, hstderr, finalNumber?_append_parenthesised]
  simp only [Numeral.value_ofInt hlength]
  rfl

theorem errorText_of_report {r : Run} {front : List Char} {n : Int}
    (hstderr : (strip r.stderr).toList = front ++ parenthesised n) :
    r.errorText = strip r.stderr := by
  have hne : (strip r.stderr).isEmpty = false := by
    rw [← Bool.not_eq_true, String.isEmpty_iff]
    intro hempty
    rw [hempty] at hstderr
    simp [parenthesised] at hstderr
  rw [errorText, hne]
  rfl

/-- A run that failed reports the number in parentheses at the end of its error output, as it is
written after any message and before any blanks, with the whole output as the text. Without such a
number it reports its exit status, and a stock text if there is no output. -/
theorem result_of_failed {r : Run} (hstatus : r.status ≠ 0) :
    (∀ (message blanks : String) (n : Int),
      r.stderr = message ++ "(" ++ toString n ++ ")" ++ blanks → blank blanks = true →
      (Nat.toDigits 10 n.natAbs).length ≤ maxDigits →
        r.result = .error (.execution (strip r.stderr) (some n))) ∧
    (¬EndsInNumber (strip r.stderr).toList →
      r.result = .error (.execution
        (if strip r.stderr = "" then "script execution failed" else strip r.stderr)
        (some r.status))) := by
  have hfailed : r.ok = false := decide_eq_false hstatus
  constructor
  · intro message blanks n hstderr hblanks hlength
    have hreport := toList_strip_report message blanks n hblanks
    rw [← hstderr] at hreport
    rw [result, hfailed, errorNumber_of_report hreport hlength, errorText_of_report hreport]
    rfl
  · intro hnone
    have hnumber : r.errorNumber = .ok none := by
      rw [errorNumber, finalNumber?_eq_none_iff.2 hnone]
    rw [result, hfailed, hnumber, errorText]
    simp only [String.isEmpty_iff]
    rfl

/-- The number is found behind an earlier one, a sign that is none and an open parenthesis, and
before a line end. A run that reports blanks only has its exit status told. -/
theorem result_of_failed_item :
    (⟨"", "\nCan't get item (4) of (-(  (-1728)\n ", 1⟩ : Run).result =
      .error (.execution "Can't get item (4) of (-(  (-1728)" (some (-1728))) ∧
    (⟨"", " \n", 3⟩ : Run).result =
      .error (.execution "script execution failed" (some 3)) := by
  constructor
  · have hstatus : (1 : Int) ≠ 0 := by decide
    have h := (result_of_failed (r := ⟨"", "\nCan't get item (4) of (-(  (-1728)\n ", 1⟩) hstatus).1
      "\nCan't get item (4) of (-(  " "\n " (-1728) (by decide) (by decide) (by decide)
    have hstrip : strip "\nCan't get item (4) of (-(  (-1728)\n " =
        "Can't get item (4) of (-(  (-1728)" := by decide
    rwa [hstrip] at h
  · have hstatus : (3 : Int) ≠ 0 := by decide
    have hnone : ¬EndsInNumber (strip " \n").toList := finalNumber?_eq_none_iff.1 (by decide)
    have h := (result_of_failed (r := ⟨"", " \n", 3⟩) hstatus).2 hnone
    have hstrip : strip " \n" = "" := by decide
    rwa [hstrip] at h

/-! ## Numbers that are too long -/

/-- The run failed, and the number of its error has more digits than are converted. -/
def Overlong (r : Run) : Prop :=
  r.status ≠ 0 ∧ ∃ front negative digits,
    (strip r.stderr).toList = front ++ '(' :: (signOf negative ++ digits ++ [')']) ∧
      (∀ c ∈ digits, isDigit c = true) ∧ maxDigits < digits.length

theorem errorNumber_eq_error_iff {r : Run} :
    (∃ t, r.errorNumber = .error t) ↔ ∃ front negative digits,
      (strip r.stderr).toList = front ++ '(' :: (signOf negative ++ digits ++ [')']) ∧
        (∀ c ∈ digits, isDigit c = true) ∧ maxDigits < digits.length := by
  have hread : (∃ t, r.errorNumber = .error t) ↔
      ∃ n, finalNumber? (strip r.stderr).toList = some n ∧ maxDigits < n.digits.length := by
    unfold errorNumber
    cases finalNumber? (strip r.stderr).toList with
    | none => simp
    | some n => simp [Outcome.map_eq_error, Numeral.value_eq_error_iff]
  rw [hread]
  constructor
  · rintro ⟨n, hn, hlong⟩
    obtain ⟨-, hall, front, heq⟩ := finalNumber?_eq_some_iff.1 hn
    exact ⟨front, n.negative, n.digits, heq, hall, hlong⟩
  · rintro ⟨front, negative, digits, heq, hall, hlong⟩
    have hne : digits ≠ [] := by
      rintro rfl
      exact absurd hlong (by decide)
    exact ⟨⟨negative, digits⟩, finalNumber?_eq_some_iff.2 ⟨hne, hall, front, heq⟩, hlong⟩

/-- A run settles in a value or in a fault of execution, unless its error number is too long. -/
theorem result_settles_iff (r : Run) :
    ((∃ value, r.result = .ok value) ∨ ∃ text code, r.result = .error (.execution text code)) ↔
      ¬ r.Overlong := by
  rw [Overlong, ← errorNumber_eq_error_iff]
  unfold result ok
  by_cases hstatus : r.status = 0
  · simp [hstatus]
  · cases r.errorNumber <;> simp [hstatus]

end ScriptGateway.Script.Run
