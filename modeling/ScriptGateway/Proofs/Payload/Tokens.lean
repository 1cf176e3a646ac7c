import ScriptGateway.Proofs.Payload.Grammar
import ScriptGateway.Proofs.Text.Trimming

/-!
# Reading strings and numbers

The reader takes a string in whatever forms its characters stand (`readString?_chars`): an escape
that is not the first half of a pair is one character whatever follows it, another escape included.
It takes all of a number, so the number must stand before something that does not go on with it
(`Ends`, `readNumber?_number`).
-/

set_option autoImplicit false

namespace ScriptGateway.Json

open Text Payload Decimal

/-! ## Strings -/

theorem exists_of_hex4 {cs : List Char} {n : Nat} (h : Hex4 cs n) :
    ∃ a b c d, cs = [a, b, c, d] ∧ hexUnit? a b c d = some n := by
  cases h with
  | mk ha hb hc hd hn => exact ⟨_, _, _, _, rfl, by simp [hexUnit?, ha, hb, hc, hd, hn]⟩

theorem readString?_plain {c : Char} (hq : c ≠ '"') (hb : c ≠ '\\') (hc : 0x20 ≤ c.toNat)
    (rest : List Char) :
    readString? (c :: rest) = (readString? rest).map fun p => (c :: p.1, p.2) := by
  have hn : ¬ c.toNat < 0x20 := by omega
  rw [readString?.eq_6 c rest hq (by simp [hb]) (by simp [hb]) (by simp [hb])]
  simp [hb, hn]

theorem readString?_short {mark c : Char} (h : (mark, c) ∈ shortForms) (rest : List Char) :
    readString? ('\\' :: mark :: rest) = (readString? rest).map fun p => (c :: p.1, p.2) := by
  simp only [shortForms, List.mem_cons, Prod.mk.injEq, List.not_mem_nil, or_false] at h
  rcases h with ⟨rfl, rfl⟩ | ⟨rfl, rfl⟩ | ⟨rfl, rfl⟩ | ⟨rfl, rfl⟩ | ⟨rfl, rfl⟩ | ⟨rfl, rfl⟩ |
    ⟨rfl, rfl⟩ | ⟨rfl, rfl⟩ <;> rfl

/-- Another escape behind it makes no difference, as no character is half a pair. -/
theorem readString?_unit {cs : List Char} {c : Char} (h : Hex4 cs c.toNat) (rest : List Char) :
    readString? ('\\' :: 'u' :: (cs ++ rest)) =
      (readString? rest).map fun p => (c :: p.1, p.2) := by
  obtain ⟨x, y, z, w, rfl, hu⟩ := exists_of_hex4 h
  have hscalar : c.toNat < 0xD800 ∨ 0xDFFF < c.toNat ∧ c.toNat < 0x110000 := c.valid
  have hhigh : ¬ (0xD800 ≤ c.toNat ∧ c.toNat < 0xDC00) := by omega
  have hlow : ¬ (0xDC00 ≤ c.toNat ∧ c.toNat < 0xE000) := by omega
  have hneither : ¬ (0xD800 ≤ c.toNat ∧ c.toNat < 0xE000) := by omega
  simp only [List.cons_append, List.nil_append]
  by_cases hr : ∃ e f g h more, rest = '\\' :: 'u' :: e :: f :: g :: h :: more
  · obtain ⟨e, f, g, h, more, rfl⟩ := hr
    rw [readString?.eq_3, hu]
    simp [hhigh, hlow]
  · have hnone : ∀ e f g h more, rest = '\\' :: 'u' :: e :: f :: g :: h :: more → False :=
      fun e f g h more he => hr ⟨e, f, g, h, more, he⟩
    rw [readString?.eq_4 _ _ _ _ _ hnone, hu]
    simp [hneither]

theorem readString?_pair {high low : List Char} {u v : Nat} {c : Char} (hhigh : Hex4 high u)
    (hlow : Hex4 low v) (hu : 0xD800 ≤ u) (hu' : u < 0xDC00) (hv : 0xDC00 ≤ v) (hv' : v < 0xE000)
    (hc : c.toNat = 0x10000 + (u - 0xD800) * 0x400 + (v - 0xDC00)) (rest : List Char) :
    readString? ('\\' :: 'u' :: (high ++ '\\' :: 'u' :: low) ++ rest) =
      (readString? rest).map fun p => (c :: p.1, p.2) := by
  obtain ⟨a, b, d, e, rfl, h1⟩ := exists_of_hex4 hhigh
  obtain ⟨a', b', d', e', rfl, h2⟩ := exists_of_hex4 hlow
  simp only [List.cons_append, List.nil_append, readString?.eq_3, h1, h2, ← hc]
  simp [hu, hu', hv, hv']

theorem readString?_charForm {form : List Char} {c : Char} (h : CharForm form c)
    (rest : List Char) :
    readString? (form ++ rest) = (readString? rest).map fun p => (c :: p.1, p.2) := by
  cases h with
  | plain hq hb hc => exact readString?_plain hq hb hc rest
  | short h => exact readString?_short h rest
  | unit h => exact readString?_unit h rest
  | pair hhigh hlow hu hu' hv hv' hc => exact readString?_pair hhigh hlow hu hu' hv hv' hc rest

theorem readString?_chars {cs ds : List Char} (h : Chars cs ds) (rest : List Char) :
    readString? (cs ++ '"' :: rest) = some (ds, rest) := by
  induction h with
  | nil => rfl
  | cons hform _ ih => rw [List.append_assoc, readString?_charForm hform, ih]; rfl

/-! ## Numbers -/

/-- What may not stand right behind a number. -/
def extendsNumber (c : Char) : Bool := isAsciiDigit c || c = '.' || c = 'e' || c = 'E'

/-- A number before this row of characters ends there. -/
def Ends (rest : List Char) : Prop := ∀ c ∈ rest.head?, extendsNumber c = false

theorem Ends.head {rest : List Char} (h : Ends rest) :
    ∀ c ∈ rest.head?, isAsciiDigit c = false ∧ c ≠ '.' ∧ c ≠ 'e' ∧ c ≠ 'E' := by
  intro c hc
  simpa [extendsNumber, and_assoc] using h c hc

theorem ends_cons {c : Char} (h : extendsNumber c = false) (rest : List Char) :
    Ends (c :: rest) := by
  simpa [Ends] using h

theorem Digits.isEmpty {ds : List Char} (h : Digits ds) : ds.isEmpty = false := by
  simpa using h.1

theorem Digits.head?_ne {ds : List Char} (h : Digits ds) {c : Char} (hc : isAsciiDigit c = false)
    (rest : List Char) : (ds ++ rest).head? ≠ some c := by
  obtain ⟨hne, hd⟩ := h
  obtain ⟨d, ds, rfl⟩ := List.exists_cons_of_ne_nil hne
  intro he
  obtain rfl : d = c := by simpa using he
  exact absurd (hd d (List.mem_cons_self ..)) (by simp [hc])

theorem readExponent?_absent {rest : List Char} (h : Ends rest) :
    readExponent? rest = some (none, rest) := by
  cases rest with
  | nil => rfl
  | cons c cs =>
    obtain ⟨-, -, he, hE⟩ := h.head c rfl
    simp [readExponent?, he, hE]

theorem readExponent?_present {mark : Char} {sign digits rest : List Char}
    (hmark : mark ∈ ['e', 'E']) (hsign : sign ∈ [[], ['+'], ['-']]) (hdigits : Digits digits)
    (hrest : Ends rest) :
    readExponent? (mark :: (sign ++ (digits ++ rest))) =
      some (some (signed (sign = ['-']) (digitsNat digits)), rest) := by
  have hm : mark = 'e' ∨ mark = 'E' := by simpa using hmark
  have hd : ∀ c ∈ rest.head?, isAsciiDigit c = false := fun c hc => (hrest.head c hc).1
  obtain ⟨htake, hdrop⟩ := span_append hdigits.2 hd
  have hplus := hdigits.head?_ne (show isAsciiDigit '+' = false by decide) rest
  have hminus := hdigits.head?_ne (show isAsciiDigit '-' = false by decide) rest
  have hempty := hdigits.isEmpty
  generalize digits ++ rest = body at *
  simp only [List.mem_cons, List.not_mem_nil, or_false] at hsign
  rcases hsign with rfl | rfl | rfl <;>
    simp [readExponent?, hm, hplus, hminus, signed, htake, hdrop, hempty]

theorem readExponent?_exponent {cs rest : List Char} {n : Int} (h : Exponent cs n)
    (hrest : Ends rest) :
    ∃ power, readExponent? (cs ++ rest) = some (power, rest) ∧ power.getD 0 = n ∧
      (power = none ↔ cs = []) := by
  cases h with
  | absent => exact ⟨none, readExponent?_absent hrest, rfl, by simp⟩
  | present hmark hsign hdigits =>
    exact ⟨_, by simpa using readExponent?_present hmark hsign hdigits hrest, rfl, by simp⟩

/-- Neither an exponent nor what follows a number goes on with the digits before it. -/
theorem head?_exponent {cs rest : List Char} {n : Int} (h : Exponent cs n) (hrest : Ends rest) :
    ∀ c ∈ (cs ++ rest).head?, isAsciiDigit c = false ∧ c ≠ '.' := by
  cases h with
  | absent => exact fun c hc => ⟨(hrest.head c hc).1, (hrest.head c hc).2.1⟩
  | present hmark =>
    simp only [List.mem_cons, List.not_mem_nil, or_false] at hmark
    rcases hmark with rfl | rfl <;> simp [isAsciiDigit]

/-- The reader does not refuse these digits. -/
theorem Whole.accepted {digits : List Char} (h : Whole digits) :
    (digits.isEmpty || (digits.head? = some '0' && digits.length > 1)) = false := by
  have hzero : digits.head? = some '0' → digits.length ≤ 1 := fun h0 => by simp [h.canonical h0]
  simpa [h.digits.isEmpty] using hzero

section
variable {digits more rest : List Char} (negative : Bool) (h : Whole digits)
include h

theorem readNumber?_no_point (hrest : ∀ c ∈ rest.head?, isAsciiDigit c = false ∧ c ≠ '.') :
    readNumber? (minus negative ++ (digits ++ rest)) =
      (readExponent? rest).map fun (power, rest) =>
        match power with
        | none => (int (signed negative (digitsNat digits)), rest)
        | some n => (float (.ofDecimal negative (digitsNat digits) n), rest) := by
  have hd : ∀ c ∈ rest.head?, isAsciiDigit c = false := fun c hc => (hrest c hc).1
  -- The reader's match on the rest finds this in the context.
  have hdot : ∀ r, rest = '.' :: r → False := fun r hr => (hrest '.' (by simp [hr])).2 rfl
  obtain ⟨htake, hdrop⟩ := span_append h.digits.2 hd
  have hminus := h.digits.head?_ne (show isAsciiDigit '-' = false by decide) rest
  generalize digits ++ rest = cs at *
  cases negative <;>
    simp only [readNumber?, minus, Bool.false_eq_true, if_false, if_true, List.nil_append,
      List.cons_append, List.head?_cons, List.tail_cons, hminus, decide_false, decide_true,
      htake, hdrop, h.accepted, reduceCtorEq, Option.getD_none, List.append_nil, List.length_nil,
      signed] <;>
    rcases readExponent? rest with _ | ⟨_ | n, rest⟩ <;> simp

theorem readNumber?_point (hmore : Digits more)
    (hrest : ∀ c ∈ rest.head?, isAsciiDigit c = false) :
    readNumber? (minus negative ++ (digits ++ '.' :: (more ++ rest))) =
      (readExponent? rest).map fun (power, rest) =>
        (float (.ofDecimal negative (digitsNat (digits ++ more)) (power.getD 0 - more.length)),
          rest) := by
  have hd : ∀ c ∈ ('.' :: (more ++ rest)).head?, isAsciiDigit c = false := by simp [isAsciiDigit]
  obtain ⟨htake, hdrop⟩ := span_append h.digits.2 hd
  have hminus := h.digits.head?_ne (show isAsciiDigit '-' = false by decide)
    ('.' :: (more ++ rest))
  have hmore' := (span_append hmore.2 hrest).1
  generalize digits ++ '.' :: (more ++ rest) = cs at *
  cases negative <;>
    simp only [readNumber?, minus, Bool.false_eq_true, if_false, if_true, List.nil_append,
      List.cons_append, List.head?_cons, List.tail_cons, hminus, decide_false, decide_true,
      htake, hdrop, h.accepted, hmore', Option.some.injEq, hmore.1, List.drop_succ_cons,
      List.drop_left, Option.getD_some]

end

theorem readNumber?_number {cs rest : List Char} {p : Payload} (h : Number cs p)
    (hrest : Ends rest) : readNumber? (cs ++ rest) = some (p, rest) := by
  cases h with
  | @whole negative digits hdigits =>
    rw [List.append_assoc, readNumber?_no_point negative hdigits
      fun c hc => ⟨(hrest.head c hc).1, (hrest.head c hc).2.1⟩, readExponent?_absent hrest]
    rfl
  | @decimal negative digits fraction more exponent power hdigits hfraction hexp hne =>
    obtain ⟨power', hread, rfl, hpower⟩ := readExponent?_exponent hexp hrest
    have hhead := head?_exponent hexp hrest
    simp only [List.append_assoc]
    cases hfraction with
    | absent =>
      rw [List.nil_append, readNumber?_no_point negative hdigits hhead, hread]
      obtain ⟨n, rfl⟩ := Option.ne_none_iff_exists'.1 fun h0 => hne (hpower.1 h0)
      simp
    | present hmore =>
      rw [List.cons_append, readNumber?_point negative hdigits hmore fun c hc => (hhead c hc).1,
        hread]
      rfl

end ScriptGateway.Json
