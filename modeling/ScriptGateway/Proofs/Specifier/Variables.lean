import ScriptGateway.Proofs.Script.Execution
import ScriptGateway.Specifier.Chain

/-!
# Numbered variables

The variables of a specifier are its stem followed by a decimal counter. Two counters under one stem
never meet (`variableName_inj`). Under two stems they may, since a stem can end in digits: the
variables of `a` reach those of `a1` at `a10` (`variableName_meet_iff`).
-/

set_option autoImplicit false

namespace ScriptGateway.Specifier

theorem variableName_toList (stem : String) (n : Nat) :
    (variableName stem n).toList = stem.toList ++ Nat.toDigits 10 n := by
  simp [variableName]

theorem variableName_inj {stem : String} {m n : Nat}
    (h : variableName stem m = variableName stem n) : m = n := by
  have hl := congrArg String.toList h
  rw [variableName_toList, variableName_toList, List.append_cancel_left_eq] at hl
  have hv := congrArg (fun cs => Nat.ofDigitChars 10 cs 0) hl
  simpa only [Nat.ofDigitChars_ten_toDigits] using hv

theorem variableName_isWord {stem : String} (hs : Script.IsWord stem) (n : Nat) :
    Script.IsWord (variableName stem n) := by
  intro c hc
  rw [variableName_toList, List.mem_append] at hc
  rcases hc with hc | hc
  · exact hs c hc
  · have hd := Nat.isDigit_of_mem_toDigits (by decide) (by decide) hc
    have hne : c ≠ ' ' := by
      rintro rfl
      exact absurd hd (by decide)
    simpa [Script.inWord] using hne

/-- The root expression is no variable: a variable ends in a digit. -/
theorem variableName_ne_root (stem : String) (n : Nat) : variableName stem n ≠ rootExpression := by
  intro h
  have hl : stem.toList ++ Nat.toDigits 10 n = ['i'] ++ ['t'] := by
    rw [← variableName_toList, h]
    rfl
  rcases List.eq_nil_or_concat (Nat.toDigits 10 n) with hnil | ⟨front, c, hc⟩
  · exact Nat.toDigits_ne_nil hnil
  · rw [List.concat_eq_append] at hc
    rw [hc, ← List.append_assoc] at hl
    obtain ⟨-, hlast⟩ := List.append_inj' hl rfl
    have hmem : 't' ∈ Nat.toDigits 10 n := by rw [hc, hlast]; simp
    exact absurd (Nat.isDigit_of_mem_toDigits (by decide) (by decide) hmem) (by decide)

/-! ## Counters under two stems -/

/-- What stands before a counter at the end of a longer one is a counter itself, ten times smaller
at least. The induction takes the last digit off both. -/
theorem toDigits_eq_append {a b : Nat} {w : List Char} (hw : w ≠ [])
    (h : Nat.toDigits 10 a = w ++ Nat.toDigits 10 b) :
    ∃ d, 0 < d ∧ w = Nat.toDigits 10 d ∧ 10 * d ≤ a := by
  induction b using Nat.strongRecOn generalizing a with
  | ind b ih =>
    have ha : 10 ≤ a := by
      rcases Nat.lt_or_ge a 10 with hlt | hge
      · have hlen := congrArg List.length h
        have h1 := List.length_pos_iff.2 hw
        have h2 := Nat.length_toDigits_pos (b := 10) (n := b)
        rw [Nat.toDigits_of_lt_base hlt, List.length_append] at hlen
        simp at hlen
        omega
      · exact hge
    rw [Nat.toDigits_of_base_le (by decide) ha] at h
    rcases Nat.lt_or_ge b 10 with hb | hb
    · rw [Nat.toDigits_of_lt_base hb] at h
      obtain ⟨hw', -⟩ := List.append_inj' h rfl
      exact ⟨a / 10, by omega, hw'.symm, by omega⟩
    · rw [Nat.toDigits_of_base_le (by decide) hb, ← List.append_assoc] at h
      obtain ⟨h', -⟩ := List.append_inj' h rfl
      obtain ⟨d, hd, hwd, hle⟩ := ih (b / 10) (by omega) h'
      exact ⟨d, hd, hwd, by omega⟩

/-- The first counter under the longer stem is the first one that the shorter stem can reach. -/
theorem variableName_ten_mul (stem : String) {d : Nat} (hd : 0 < d) :
    variableName stem (10 * d) = variableName (stem ++ toString d) 0 := by
  have h := Nat.toDigits_append_toDigits (b := 10) (d := 0) (by decide) hd (by decide)
  apply String.toList_inj.1
  simpa [variableName] using h.symm

theorem exists_stem_of_append {s s' : String} {a b : Nat} {w : List Char}
    (hs : s'.toList = s.toList ++ w) (h : variableName s a = variableName s' b) :
    s = s' ∨ ∃ d, 0 < d ∧ s' = s ++ toString d ∧ 10 * d ≤ a := by
  by_cases hw : w = []
  · subst hw
    exact .inl (String.toList_inj.1 (by simpa using hs.symm))
  · have hl := congrArg String.toList h
    rw [variableName_toList, variableName_toList, hs, List.append_assoc,
      List.append_cancel_left_eq] at hl
    obtain ⟨d, hd, rfl, hle⟩ := toDigits_eq_append hw hl
    exact .inr ⟨d, hd, String.toList_inj.1 (by simpa using hs), hle⟩

/-- **Where the variables of two stems meet**: they do when the stems are equal, or when one stem
is the other one followed by a number and the counter of the shorter one passes ten times that
number. -/
theorem variableName_meet_iff {s s' : String} {m n : Nat} (hm : 0 < m) (hn : 0 < n) :
    (∃ a < m, ∃ b < n, variableName s a = variableName s' b) ↔
      s = s' ∨ (∃ d, 0 < d ∧ s' = s ++ toString d ∧ 10 * d < m) ∨
        ∃ d, 0 < d ∧ s = s' ++ toString d ∧ 10 * d < n := by
  constructor
  · rintro ⟨a, ha, b, hb, h⟩
    have hl := congrArg String.toList h
    rw [variableName_toList, variableName_toList, List.append_eq_append_iff] at hl
    rcases hl with ⟨w, hs, -⟩ | ⟨w, hs, -⟩
    · rcases exists_stem_of_append hs h with heq | ⟨d, hd, hsd, hle⟩
      · exact .inl heq
      · exact .inr (.inl ⟨d, hd, hsd, by omega⟩)
    · rcases exists_stem_of_append hs h.symm with heq | ⟨d, hd, hsd, hle⟩
      · exact .inl heq.symm
      · exact .inr (.inr ⟨d, hd, hsd, by omega⟩)
  · rintro (rfl | ⟨d, hd, rfl, hlt⟩ | ⟨d, hd, rfl, hlt⟩)
    · exact ⟨0, hm, 0, hn, rfl⟩
    · exact ⟨10 * d, hlt, 0, hn, variableName_ten_mul s hd⟩
    · exact ⟨0, hm, 10 * d, hlt, (variableName_ten_mul s' hd).symm⟩

end ScriptGateway.Specifier
