import ScriptGateway.Naming.Key
import ScriptGateway.Proofs.Text.Trimming

/-!
# How a phrase is read

The passes that make the key of a text. The two that part words look at neighbouring characters
only, so they are one pass that carries the character before (`partHumps_partCapitals`). What comes
after it goes character by character, where no capital sigma is written, up to the joining of
separators: the key is `keyAfter` of the text (`phrase_eq_keyAfter`).
-/

set_option autoImplicit false

namespace ScriptGateway

open Text

/-! ## Single characters -/

namespace Naming

/-- What holds of the first 128 characters, which can be tried out, holds of those of ASCII. -/
@[elab_as_elim]
theorem ascii_induction {P : Char → Prop} {c : Char} (hc : c.toNat < 128)
    (h : ∀ n < 128, P (Char.ofNat n)) : P c := by
  have hn := h c.toNat hc
  rwa [Char.ofNat_toNat] at hn

/-- The characters of words. -/
def isWordChar (c : Char) : Bool := isAsciiLower c || isAsciiDigit c

/-- White space, underscores and hyphens. -/
def isDivider (c : Char) : Bool := isBlank c || c = '_' || c = '-'

/-- What becomes of a character once words have been parted. -/
def tidy (c : Char) : List Char := lowerChar (unhyphen c)

theorem toNat_of_isAsciiLower {c : Char} (h : isAsciiLower c = true) : c.toNat < 128 := by
  simp only [isAsciiLower, Bool.and_eq_true, decide_eq_true_eq] at h
  have hle : c.toNat ≤ 122 := h.2
  omega

theorem toNat_of_isWordChar {c : Char} (h : isWordChar c = true) : c.toNat < 128 := by
  rcases Bool.or_eq_true_iff.1 h with hlower | hdigit
  · exact toNat_of_isAsciiLower hlower
  · simp only [isAsciiDigit, Bool.and_eq_true, decide_eq_true_eq] at hdigit
    have hle : c.toNat ≤ 57 := hdigit.2
    omega

/-- A character of a word stays as it is and parts nothing. -/
theorem wordChar_plain {c : Char} (h : isWordChar c = true) :
    isAsciiUpper c = false ∧ isSeparator c = false ∧ tidy c = [c] ∧
      (isAsciiLower c = true ∨ isDigit c = true) := by
  have hascii := toNat_of_isWordChar h
  revert h
  refine ascii_induction hascii ?_
  decide

theorem isAsciiUpper_of_isWordChar {c : Char} (h : isWordChar c = true) : isAsciiUpper c = false :=
  (wordChar_plain h).1

theorem isSeparator_of_isWordChar {c : Char} (h : isWordChar c = true) : isSeparator c = false :=
  (wordChar_plain h).2.1

theorem isBlank_of_isWordChar {c : Char} (h : isWordChar c = true) : isBlank c = false := by
  have hseparator := isSeparator_of_isWordChar h
  simp only [isSeparator, Bool.or_eq_false_iff] at hseparator
  exact hseparator.1

theorem isWordChar_of_isAsciiLower {c : Char} (h : isAsciiLower c = true) : isWordChar c = true :=
  Bool.or_eq_true_iff.2 (.inl h)

/-- A capital is written for a small letter and becomes it again. -/
theorem capital_of_isAsciiLower {c : Char} (h : isAsciiLower c = true) :
    isAsciiUpper c.toUpper = true ∧ isBlank c.toUpper = false ∧ tidy c.toUpper = [c] := by
  have hascii := toNat_of_isAsciiLower h
  revert h
  refine ascii_induction hascii ?_
  decide

theorem isAsciiUpper_of_isBlank {c : Char} (h : isBlank c = true) : isAsciiUpper c = false := by
  have hapart : ∀ b ∈ blankRanges, b.2 < 65 ∨ 90 < b.1 := by decide
  obtain ⟨b, hb, hle, hge⟩ := Ranges.contains_iff.1 h
  rw [← Bool.not_eq_true]
  intro hupper
  simp only [isAsciiUpper, Bool.and_eq_true, decide_eq_true_eq] at hupper
  have hA : 65 ≤ c.toNat := hupper.1
  have hZ : c.toNat ≤ 90 := hupper.2
  rcases hapart b hb with hlt | hlt
  · omega
  · omega

/-- White space has no case. -/
theorem lowerChar_of_isBlank {c : Char} (h : isBlank c = true) : lowerChar c = [c] := by
  have hapart : ∀ b ∈ blankRanges, ∀ r ∈ lowerRuns, b.2 < r.first ∨ r.last < b.1 := by
    decide +kernel
  have hupper : ('A' ≤ c && c ≤ 'Z') = false := isAsciiUpper_of_isBlank h
  have hdotted : c ≠ 'İ' := by
    rintro rfl
    exact absurd h (by decide)
  have hnone : lowerRuns.find? (·.covers c.toNat) = none := by
    obtain ⟨b, hb, hle, hge⟩ := Ranges.contains_iff.1 h
    refine List.find?_eq_none.2 fun r hr hcovers => ?_
    simp only [CaseRun.covers, Bool.and_eq_true, decide_eq_true_eq] at hcovers
    rcases hapart b hb r hr with hlt | hlt
    · omega
    · omega
  simp [lowerChar, hupper, hdotted, hnone]

theorem divider_plain {c : Char} (h : isDivider c = true) :
    isAsciiUpper c = false ∧ isSeparator (unhyphen c) = true ∧ tidy c = [unhyphen c] := by
  rcases (by simpa [isDivider, or_assoc] using h : isBlank c = true ∨ c = '_' ∨ c = '-')
    with hblank | rfl | rfl
  · have hhyphen : c ≠ '-' := by
      rintro rfl
      exact absurd hblank (by decide)
    have hkept : unhyphen c = c := if_neg hhyphen
    refine ⟨isAsciiUpper_of_isBlank hblank, ?_, ?_⟩
    · simp [hkept, isSeparator, hblank]
    · rw [tidy, hkept, lowerChar_of_isBlank hblank]
  · decide
  · decide

/-! ## Parting words in one pass -/

/-- A word begins at `b` after the character `a` and before `next?`. -/
def parts (a b : Char) (next? : Option Char) : Bool :=
  isAsciiUpper b && (isAsciiUpper a && next?.any isAsciiLower || isAsciiLower a || isDigit a)

/-- Parts the words of a text that stands after the character `a`. -/
def partAfter : (a : Char) → List Char → List Char
  | _, [] => []
  | a, b :: rest =>
    if parts a b rest.head? then '_' :: b :: partAfter b rest else b :: partAfter b rest

theorem partCapitals_cons (a b : Char) (rest : List Char) :
    partCapitals (a :: b :: rest) =
      if isAsciiUpper a && isAsciiUpper b && rest.head?.any isAsciiLower then
        a :: '_' :: partCapitals (b :: rest)
      else a :: partCapitals (b :: rest) := by
  cases rest with
  | nil => simp [partCapitals]
  | cons c rest => rfl

theorem exists_partCapitals_eq (a : Char) (cs : List Char) :
    ∃ rest, partCapitals (a :: cs) = a :: rest := by
  cases cs with
  | nil => exact ⟨[], rfl⟩
  | cons b cs =>
    rw [partCapitals_cons]
    split
    · exact ⟨_, rfl⟩
    · exact ⟨_, rfl⟩

/-- What the first pass puts in is neither a letter nor a digit, so the second adds nothing there. -/
theorem partHumps_partCapitals_cons (a : Char) (cs : List Char) :
    partHumps (partCapitals (a :: cs)) = a :: partAfter a cs := by
  induction cs generalizing a with
  | nil => rfl
  | cons b cs ih =>
    obtain ⟨rest, hrest⟩ := exists_partCapitals_eq b cs
    have hhump := ih b
    rw [hrest] at hhump
    have hlower : isAsciiLower '_' = false := by decide
    have hdigit : isDigit '_' = false := by decide
    have hupper : isAsciiUpper '_' = false := by decide
    rw [partCapitals_cons, hrest, partAfter, parts]
    cases hb : isAsciiUpper b with
    | false => simp [partHumps, hb, hhump]
    | true =>
      simp only [Bool.and_true, Bool.true_and]
      cases hcapitals : isAsciiUpper a && cs.head?.any isAsciiLower with
      | true => simp [partHumps, hhump, hlower, hdigit, hupper]
      | false => simp [partHumps, hb, hhump, ← apply_ite (a :: ·)]

theorem partHumps_partCapitals (cs : List Char) :
    partHumps (partCapitals cs) = partAfter ' ' cs := by
  cases cs with
  | nil => rfl
  | cons a cs =>
    have hblank : parts ' ' a cs.head? = false := by
      simp [parts, (by decide : isAsciiUpper ' ' = false), (by decide : isAsciiLower ' ' = false),
        (by decide : isDigit ' ' = false)]
    rw [partHumps_partCapitals_cons, partAfter, hblank]
    rfl

/-- Nothing is parted before what is no capital. -/
theorem partAfter_append {a : Char} {cs : List Char} (h : ∀ c ∈ cs, isAsciiUpper c = false)
    (rest : List Char) : partAfter a (cs ++ rest) = cs ++ partAfter (cs.getLastD a) rest := by
  induction cs generalizing a with
  | nil => rfl
  | cons c cs ih =>
    obtain ⟨hc, hcs⟩ := List.forall_mem_cons.1 h
    have hparts : parts a c (cs ++ rest).head? = false := by simp [parts, hc]
    rw [List.cons_append, partAfter, hparts, ih hcs, List.getLastD_cons]
    rfl

/-! ## Tidying -/

theorem lowerAfter_eq_flatMap {before cs : List Char} (h : 'Σ' ∉ cs) :
    lowerAfter before cs = cs.flatMap lowerChar := by
  induction cs generalizing before with
  | nil => rfl
  | cons c cs ih =>
    rw [List.mem_cons, not_or] at h
    rw [lowerAfter, if_neg (Ne.symm h.1), ih h.2, List.flatMap_cons]

theorem flatMap_tidy_word {cs : List Char} (h : ∀ c ∈ cs, isWordChar c = true) :
    cs.flatMap tidy = cs := by
  induction cs with
  | nil => rfl
  | cons c cs ih =>
    obtain ⟨hc, hcs⟩ := List.forall_mem_cons.1 h
    obtain ⟨-, -, htidy, -⟩ := wordChar_plain hc
    rw [List.flatMap_cons, ih hcs, htidy]
    rfl

theorem joinRuns_word {within : Bool} {cs : List Char} (h : ∀ c ∈ cs, isSeparator c = false)
    (hne : cs ≠ []) (rest : List Char) :
    joinRuns within (cs ++ rest) = cs ++ joinRuns false rest := by
  induction cs generalizing within with
  | nil => exact absurd rfl hne
  | cons c cs ih =>
    obtain ⟨hc, hcs⟩ := List.forall_mem_cons.1 h
    rw [List.cons_append, joinRuns, if_neg (by simp [hc])]
    cases cs with
    | nil => rfl
    | cons d cs =>
      rw [ih hcs (by simp)]
      rfl

theorem joinRuns_dividers {gap : List Char} (h : ∀ c ∈ gap, isDivider c = true)
    (rest : List Char) : joinRuns true (gap.flatMap tidy ++ rest) = joinRuns true rest := by
  induction gap with
  | nil => rfl
  | cons c gap ih =>
    obtain ⟨hc, hgap⟩ := List.forall_mem_cons.1 h
    obtain ⟨-, hseparator, htidy⟩ := divider_plain hc
    rw [List.flatMap_cons, htidy, List.singleton_append, List.cons_append, joinRuns,
      if_pos hseparator, if_pos rfl, ih hgap]

/-- What is written for a row of dividers: one space, if there are any. -/
def space (gap : List Char) : List Char := if gap.isEmpty then [] else [' ']

theorem joinRuns_gap {gap : List Char} (h : ∀ c ∈ gap, isDivider c = true) (rest : List Char) :
    joinRuns false (gap.flatMap tidy ++ rest) =
      space gap ++ joinRuns (!gap.isEmpty) rest := by
  cases gap with
  | nil => rfl
  | cons c gap =>
    obtain ⟨hc, hgap⟩ := List.forall_mem_cons.1 h
    obtain ⟨-, hseparator, htidy⟩ := divider_plain hc
    rw [List.flatMap_cons, htidy, List.singleton_append, List.cons_append, joinRuns,
      if_pos hseparator, joinRuns_dividers hgap]
    rfl

theorem dropWhile_space (cs : List Char) : (space cs).dropWhile isBlank = [] := by
  have hblank : isBlank ' ' = true := by decide
  cases cs with
  | nil => rfl
  | cons => simp [space, hblank]

theorem dropEndWhile_space (cs : List Char) : dropEndWhile isBlank (space cs) = [] := by
  have hblank : isBlank ' ' = true := by decide
  cases cs with
  | nil => rfl
  | cons => simp [space, dropEndWhile, hblank]

/-! ## The key of a text -/

/-- What the key of a text that stands after the character `a` is made from. -/
def keyAfter (a : Char) (cs : List Char) : List Char :=
  joinRuns false ((partAfter a cs).flatMap tidy)

theorem keyAfter_gap {gap : List Char} (h : ∀ c ∈ gap, isDivider c = true) (a : Char) :
    keyAfter a gap = space gap := by
  have hparted := partAfter_append (a := a) (fun c hc => (divider_plain (h c hc)).1) []
  rw [List.append_nil, partAfter, List.append_nil] at hparted
  have hjoined := joinRuns_gap h []
  rw [List.append_nil, joinRuns, List.append_nil] at hjoined
  rw [keyAfter, hparted, hjoined]

theorem mem_partAfter {a c : Char} {cs : List Char} (h : c ∈ partAfter a cs) :
    c = '_' ∨ c ∈ cs := by
  induction cs generalizing a with
  | nil => cases h
  | cons b cs ih =>
    unfold partAfter at h
    split at h
    · rcases List.mem_cons.1 h with rfl | h
      · exact .inl rfl
      · rcases List.mem_cons.1 h with rfl | h
        · exact .inr List.mem_cons_self
        · exact (ih h).imp_right (List.mem_cons_of_mem b)
    · rcases List.mem_cons.1 h with rfl | h
      · exact .inr List.mem_cons_self
      · exact (ih h).imp_right (List.mem_cons_of_mem b)

/-- Where no capital sigma is written, lowering needs no context. -/
theorem phrase_eq_keyAfter {cs : List Char} (h : 'Σ' ∉ cs) :
    phrase cs = trimWhile isBlank (keyAfter ' ' (trimWhile isBlank cs)) := by
  have hsigma : 'Σ' ∉ (partAfter ' ' (trimWhile isBlank cs)).map unhyphen := by
    intro hmem
    obtain ⟨c, hc, heq⟩ := List.mem_map.1 hmem
    unfold unhyphen at heq
    split at heq
    · exact absurd heq (by decide)
    · subst heq
      rcases mem_partAfter hc with hunderscore | hc
      · exact absurd hunderscore (by decide)
      · exact h (mem_of_mem_trimWhile hc)
  rw [phrase, partHumps_partCapitals]
  simp only [lowerAfter_eq_flatMap hsigma, List.flatMap_map, keyAfter]
  rfl

end Naming

end ScriptGateway
