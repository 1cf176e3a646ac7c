import Mathlib.Data.List.Infix
import Mathlib.Data.List.TakeWhile
import ScriptGateway.Proofs.Script.Strings

/-!
# Comments in scripts

Two hyphens outside strings begin a comment, which goes on to the end of its line. Only these
comments are meant here: those after a number sign and those between `(*` and `*)` are read as any
other text. A text is `Uncommented` when two hyphens stand side by side in its strings only; then,
and only then, no part of it is in a comment (`executed_eq_self_iff`).

Words that are joined by spaces make no comment between them: whether one begins is a matter of each
word, read where the words before it leave off (`uncommented_joinWith_iff`). When every word closes
its strings, it is read as it would be alone (`wordsUncommented_iff`).
-/

set_option autoImplicit false

namespace ScriptGateway.Script

/-! ## Where comments begin -/

/-- Where a scan stands behind a character. -/
def Mode.next (m : Mode) (c : Char) : Mode := (Scan.step ⟨m, 0⟩ c).mode

def Mode.after (m : Mode) (cs : List Char) : Mode := cs.foldl Mode.next m

/-- From the mode `m` on, two hyphens stand side by side in strings only. -/
def UncommentedFrom (m : Mode) (cs : List Char) : Prop :=
  ∀ front back, cs = front ++ '-' :: '-' :: back → m.after front ≠ .code

def Uncommented (x : String) : Prop := UncommentedFrom .code x.toList

/-- Every string in the text is closed. -/
def Closed (x : String) : Prop := Mode.code.after x.toList = .code

instance (x : String) : Decidable (Closed x) := inferInstanceAs (Decidable (_ = _))

section

variable {m : Mode} {c : Char} {cs xs ys : List Char}

theorem Mode.next_code (hc : c ≠ '"') : Mode.code.next c = .code := by
  simp only [next, Scan.step, hc, ite_false]
  split
  · rfl
  · split <;> rfl

theorem Mode.after_code (h : '"' ∉ cs) : Mode.code.after cs = .code := by
  induction cs with
  | nil => rfl
  | cons c cs ih =>
    rw [List.mem_cons, not_or] at h
    show (Mode.code.next c).after cs = .code
    rw [next_code (Ne.symm h.1), ih h.2]

theorem Mode.after_append : m.after (xs ++ ys) = (m.after xs).after ys := List.foldl_append

theorem uncommentedFrom_nil : UncommentedFrom m [] := by
  rintro (_ | _) back h <;> cases h

/-- A comment begins at the first character or behind it. -/
theorem uncommentedFrom_cons : UncommentedFrom m (c :: cs) ↔
    ¬(m = .code ∧ c = '-' ∧ cs.head? = some '-') ∧ UncommentedFrom (m.next c) cs := by
  constructor
  · refine fun h => ⟨?_, fun front back heq => h (c :: front) back (by rw [heq]; rfl)⟩
    rintro ⟨rfl, rfl, hhead⟩
    obtain ⟨back, rfl⟩ := List.head?_eq_some_iff.1 hhead
    exact h [] back rfl rfl
  · rintro ⟨hhere, hbehind⟩ front back heq
    cases front with
    | nil =>
      obtain ⟨rfl, rfl⟩ := List.cons.inj heq
      exact fun hm => hhere ⟨hm, rfl, rfl⟩
    | cons d front =>
      obtain ⟨rfl, rfl⟩ := List.cons.inj heq
      exact hbehind front back rfl

/-- No comment begins at a character that is no hyphen. -/
theorem uncommentedFrom_cons_of_ne (hc : c ≠ '-') :
    UncommentedFrom m (c :: cs) ↔ UncommentedFrom (m.next c) cs := by
  rw [uncommentedFrom_cons]
  exact and_iff_right fun h => hc h.2.1

/-- No comment begins across a space. -/
theorem uncommentedFrom_append_space : UncommentedFrom m (xs ++ ' ' :: ys) ↔
    UncommentedFrom m xs ∧ UncommentedFrom ((m.after xs).next ' ') ys := by
  induction xs generalizing m with
  | nil =>
    rw [List.nil_append, uncommentedFrom_cons_of_ne (by decide)]
    exact (and_iff_right uncommentedFrom_nil).symm
  | cons x xs ih =>
    have hhead : (xs ++ ' ' :: ys).head? = some '-' ↔ xs.head? = some '-' := by
      cases xs with
      | nil => simp
      | cons => rfl
    rw [List.cons_append, uncommentedFrom_cons, uncommentedFrom_cons, hhead, ih, and_assoc]
    rfl

end

/-! ## What is executed -/

/-- What is left of a text without the comments that two hyphens begin, from a mode on, or from
within such a comment. -/
def executedFrom : (mode? : Option Mode) → List Char → List Char
  | _, [] => []
  | none, c :: rest =>
    if c = '\n' then c :: executedFrom (some .code) rest else executedFrom none rest
  | some m, c :: rest =>
    if m = .code ∧ c = '-' ∧ rest.head? = some '-' then executedFrom none rest
    else c :: executedFrom (some (m.next c)) rest

/-- The text without the comments that two hyphens begin, each up to the end of its line. Comments
after a number sign or between `(*` and `*)` are left in it. -/
def executed (x : String) : String := String.ofList (executedFrom (some .code) x.toList)

theorem length_executedFrom_le (mode? : Option Mode) (cs : List Char) :
    (executedFrom mode? cs).length ≤ cs.length := by
  fun_induction executedFrom mode? cs with
  | case1 => exact Nat.le_refl 0
  | case2 _ ih => exact Nat.succ_le_succ ih
  | case3 _ _ _ ih => exact Nat.le_succ_of_le ih
  | case4 _ _ _ _ ih => exact Nat.le_succ_of_le ih
  | case5 _ _ _ _ ih => exact Nat.succ_le_succ ih

theorem executedFrom_eq_self_iff {m : Mode} {cs : List Char} :
    executedFrom (some m) cs = cs ↔ UncommentedFrom m cs := by
  induction cs generalizing m with
  | nil => exact iff_of_true rfl uncommentedFrom_nil
  | cons c cs ih =>
    rw [uncommentedFrom_cons, executedFrom]
    split
    · rename_i hbegins
      have hshorter : executedFrom none cs ≠ c :: cs := by
        intro heq
        have hlength := length_executedFrom_le none cs
        rw [heq, List.length_cons] at hlength
        omega
      exact iff_of_false hshorter fun h => h.1 hbegins
    · rename_i hplain
      rw [List.cons_inj_right, ih]
      exact (and_iff_right hplain).symm

/-- Nothing is taken out of a text exactly when two hyphens begin no comment in it. -/
theorem executed_eq_self_iff {x : String} : executed x = x ↔ Uncommented x := by
  rw [Uncommented, ← executedFrom_eq_self_iff, executed, ← String.toList_inj, String.toList_ofList]

instance (x : String) : Decidable (Uncommented x) :=
  decidable_of_iff (executed x = x) executed_eq_self_iff

/-! ## Words -/

/-- No comment begins in a word, each being read where the words before it and a space leave off. -/
def WordsUncommented : (m : Mode) → List String → Prop
  | _, [] => True
  | m, w :: ws =>
    UncommentedFrom m w.toList ∧ WordsUncommented ((m.after w.toList).next ' ') ws

/-- Joined words make no comment that is not in one of them. -/
theorem uncommentedFrom_joinWith_iff {m : Mode} {ws : List String} :
    UncommentedFrom m (Text.joinWith " " ws).toList ↔ WordsUncommented m ws := by
  induction ws generalizing m with
  | nil => exact iff_of_true uncommentedFrom_nil trivial
  | cons w ws ih =>
    cases ws with
    | nil => exact (and_iff_left trivial).symm
    | cons v ws =>
      have hjoined : (Text.joinWith " " (w :: v :: ws)).toList =
          w.toList ++ ' ' :: (Text.joinWith " " (v :: ws)).toList := by
        simp [Text.joinWith]
      rw [hjoined, uncommentedFrom_append_space, ih]
      rfl

theorem uncommented_joinWith_iff {ws : List String} :
    Uncommented (Text.joinWith " " ws) ↔ WordsUncommented .code ws := uncommentedFrom_joinWith_iff

/-- Words that close their strings are read as if each stood alone. -/
theorem wordsUncommented_iff {ws : List String} (h : ∀ w ∈ ws, Closed w) :
    WordsUncommented .code ws ↔ ∀ w ∈ ws, Uncommented w := by
  induction ws with
  | nil => exact iff_of_true trivial (by simp)
  | cons w ws ih =>
    obtain ⟨hw, hws⟩ := List.forall_mem_cons.1 h
    have hcode : (Mode.code.after w.toList).next ' ' = .code := by
      rw [show Mode.code.after w.toList = .code from hw]
      rfl
    rw [WordsUncommented, hcode, ih hws, List.forall_mem_cons]
    rfl

/-! ## Inert texts -/

/-- No two hyphens stand side by side. -/
def Unhyphenated (x : String) : Prop := ¬ ['-', '-'] <:+: x.toList

instance (x : String) : Decidable (Unhyphenated x) := inferInstanceAs (Decidable (¬ _))

/-- The text opens no string, and no two hyphens stand side by side in it. -/
def Inert (x : String) : Prop := Plain x ∧ Unhyphenated x

instance (x : String) : Decidable (Inert x) := inferInstanceAs (Decidable (_ ∧ _))

/-- Without strings every two hyphens begin a comment. -/
theorem Plain.uncommented_iff {x : String} (h : Plain x) : Uncommented x ↔ Unhyphenated x := by
  constructor
  · rintro huncommented ⟨front, back, heq⟩
    have hfront : '"' ∉ front := fun hmem => h (by simp [← heq, hmem])
    exact huncommented front back (by simp [← heq]) (Mode.after_code hfront)
  · intro hunhyphenated front back heq
    exact absurd ⟨front, back, by simp [heq]⟩ hunhyphenated

theorem inert_iff {x : String} : Inert x ↔ Plain x ∧ Uncommented x :=
  and_congr_right fun h => h.uncommented_iff.symm

namespace Inert

theorem uncommented {x : String} (h : Inert x) : Uncommented x := (inert_iff.1 h).2

theorem closed {x : String} (h : Inert x) : Closed x := Mode.after_code h.1

theorem of_forall {x : String} (h : ∀ c ∈ x.toList, c ≠ '"' ∧ c ≠ '-') : Inert x := by
  refine ⟨fun hquote => (h _ hquote).1 rfl, fun hyphens => (h '-' ?_).2 rfl⟩
  exact hyphens.subset List.mem_cons_self

theorem joinWith {ws : List String} (h : ∀ w ∈ ws, Inert w) : Inert (Text.joinWith " " ws) := by
  refine inert_iff.2 ⟨?_, uncommented_joinWith_iff.2 ((wordsUncommented_iff fun w hw =>
    (h w hw).closed).2 fun w hw => (h w hw).uncommented)⟩
  induction ws with
  | nil => decide
  | cons w ws ih =>
    obtain ⟨hw, hws⟩ := List.forall_mem_cons.1 h
    cases ws with
    | nil => exact hw.1
    | cons v ws => exact plain_append.2 ⟨plain_append.2 ⟨hw.1, by decide +kernel⟩, ih hws⟩

end Inert

/-! ## Texts -/

theorem after_escapeChar (c : Char) : Mode.text.after (escapeChar c) = .text := by
  unfold escapeChar
  by_cases hb : c = '\\'
  · simp [hb, Mode.after, Mode.next, Scan.step]
  · by_cases hq : c = '"'
    · simp [hq, Mode.after, Mode.next, Scan.step]
    · simp [hb, hq, Mode.after, Mode.next, Scan.step]

theorem uncommentedFrom_escapeChar (c : Char) (rest : List Char) :
    UncommentedFrom .text (escapeChar c ++ rest) ↔ UncommentedFrom .text rest := by
  unfold escapeChar
  by_cases hb : c = '\\'
  · subst hb
    exact (uncommentedFrom_cons_of_ne (by decide)).trans (uncommentedFrom_cons_of_ne (by decide))
  · by_cases hq : c = '"'
    · subst hq
      exact (uncommentedFrom_cons_of_ne (by decide)).trans (uncommentedFrom_cons_of_ne (by decide))
    · have hnext : Mode.text.next c = .text := by simp [Mode.next, Scan.step, hb, hq]
      simp only [hb, hq, decide_false, Bool.or_self, Bool.false_eq_true, ite_false,
        List.singleton_append]
      rw [uncommentedFrom_cons, hnext]
      exact and_iff_right fun h => by cases h.1

theorem after_text (cs : List Char) : Mode.text.after (cs.flatMap escapeChar ++ ['"']) = .code := by
  induction cs with
  | nil => rfl
  | cons c cs ih => rw [List.flatMap_cons, List.append_assoc, Mode.after_append, after_escapeChar, ih]

theorem uncommentedFrom_text (cs : List Char) :
    UncommentedFrom .text (cs.flatMap escapeChar ++ ['"']) := by
  induction cs with
  | nil => exact (uncommentedFrom_cons_of_ne (by decide)).2 uncommentedFrom_nil
  | cons c cs ih =>
    rw [List.flatMap_cons, List.append_assoc]
    exact (uncommentedFrom_escapeChar c _).2 ih

theorem closed_textLiteral (s : String) : Closed (textLiteral s) := by
  rw [Closed, textLiteral, String.toList_ofList]
  exact after_text s.toList

/-- Hyphens in a written text stand in its string. -/
theorem uncommented_textLiteral (s : String) : Uncommented (textLiteral s) := by
  rw [Uncommented, textLiteral, String.toList_ofList]
  exact (uncommentedFrom_cons_of_ne (by decide)).2 (uncommentedFrom_text s.toList)

/-! ## Numbers -/

/-- The characters open no string and begin no comment, also behind a hyphen. -/
structure Tail (cs : List Char) : Prop where
  plain : '"' ∉ cs
  uncommented : UncommentedFrom .code ('-' :: cs)

namespace Tail

variable {c : Char} {cs xs : List Char}

theorem nil : Tail [] := ⟨List.not_mem_nil, uncommentedFrom_cons.2 ⟨by simp, uncommentedFrom_nil⟩⟩

theorem uncommented_self (h : Tail cs) : UncommentedFrom .code cs :=
  (uncommentedFrom_cons.1 h.uncommented).2

theorem cons (hquote : c ≠ '"') (hyphen : c ≠ '-') (hplain : '"' ∉ cs)
    (huncommented : UncommentedFrom .code cs) : Tail (c :: cs) where
  plain := by simp [hquote.symm, hplain]
  uncommented := by
    rw [uncommentedFrom_cons, Mode.next_code (by decide), uncommentedFrom_cons_of_ne hyphen,
      Mode.next_code hquote]
    exact ⟨by simp [hyphen], huncommented⟩

theorem append_digits (hxs : ∀ c ∈ xs, Text.isDigit c = true) (h : Tail cs) : Tail (xs ++ cs) := by
  induction xs with
  | nil => exact h
  | cons c xs ih =>
    obtain ⟨hc, hxs⟩ := List.forall_mem_cons.1 hxs
    have hrest := ih hxs
    exact cons (Text.ne_of_isDigit hc (by decide)) (Text.ne_of_isDigit hc (by decide)) hrest.plain
      hrest.uncommented_self

/-- Digits may stand before it. -/
theorem of_dropWhile (h : Tail (cs.dropWhile Text.isDigit)) : Tail cs := by
  rw [← List.takeWhile_append_dropWhile (p := Text.isDigit) (l := cs)]
  exact append_digits (fun _ hc => List.mem_takeWhile_imp hc) h

/-- A sign may stand before it. -/
theorem of_dropSign (h : Tail (dropSign cs)) : '"' ∉ cs ∧ UncommentedFrom .code cs := by
  unfold dropSign at h
  split at h
  · have hplus := cons (c := '+') (by decide) (by decide) h.plain h.uncommented_self
    exact ⟨hplus.plain, hplus.uncommented_self⟩
  · exact ⟨by simp [h.plain], h.uncommented⟩
  · exact ⟨h.plain, h.uncommented_self⟩

theorem of_allDigits (h : allDigits cs = true) : Tail cs := by
  rw [allDigits, Bool.and_eq_true, List.all_eq_true] at h
  simpa using append_digits h.2 nil

theorem of_isExponent (h : isExponent cs = true) : Tail cs := by
  cases cs with
  | nil => exact nil
  | cons c cs =>
    rw [isExponent, Bool.and_eq_true] at h
    obtain ⟨hplain, huncommented⟩ := of_dropSign (of_allDigits h.2)
    have hmark : c = 'e' ∨ c = 'E' := by simpa using h.1
    refine cons ?_ ?_ hplain huncommented
    · rintro rfl
      simp at hmark
    · rintro rfl
      simp at hmark

theorem of_isMagnitude (h : isMagnitude cs = true) : Tail cs := by
  refine of_dropWhile ?_
  rw [isMagnitude] at h
  split at h
  · rename_i rest heq
    rw [Bool.and_eq_true] at h
    have hfraction : Tail rest := of_dropWhile (of_isExponent h.2)
    rw [heq]
    exact cons (by decide) (by decide) hfraction.plain hfraction.uncommented_self
  · rw [Bool.and_eq_true] at h
    exact of_isExponent h.2

end Tail

/-- A number is no place for a comment. -/
theorem inert_of_numberLiteral? {raw n : String} (h : numberLiteral? raw = some n) : Inert n := by
  obtain ⟨hmagnitude, hn⟩ := Option.ite_none_right_eq_some.1 h
  obtain rfl := Option.some.inj hn
  exact inert_iff.2 (Tail.of_isMagnitude hmagnitude).of_dropSign

end ScriptGateway.Script
