import ScriptGateway.Proofs.Command.Serialization
import ScriptGateway.Proofs.Gateway.Requests
import ScriptGateway.Proofs.Text.Numerals
import ScriptGateway.Proofs.Text.Trimming

/-!
# Numbers in scripts

What is written without quotes for a number is a numeral: an optional sign, digits with an optional
point, and an optional exponent; for an integer it is a sign and digits. The grammars are stated for
any class of digits (`Grammar`). The values that are taken are the numerals in the digits of all
scripts (`numberLiteral?_eq_some_iff`, `integerLiteral?_eq_some_iff`), and each is written as it is.
So they are the numerals of ASCII exactly where no other digits stand in a numeral
(`numerals_written`).
-/

set_option autoImplicit false

namespace ScriptGateway.Script

open Text

variable {p q : Char → Bool} {cs : List Char}

/-! ## Numerals -/

/-- One or more digits. -/
def Digits (p : Char → Bool) (cs : List Char) : Prop := cs ≠ [] ∧ ∀ c ∈ cs, p c = true

/-- What `P` holds of, with an optional sign before it. -/
def Signed (P : List Char → Prop) (cs : List Char) : Prop :=
  ∃ sign ∈ [[], ['+'], ['-']], ∃ rest, cs = sign ++ rest ∧ P rest

/-- Digits with an optional point and perhaps more digits, or a point and digits. -/
inductive Mantissa (p : Char → Bool) : List Char → Prop
  | whole {digits : List Char} : Digits p digits → Mantissa p digits
  | pointed {digits more : List Char} : Digits p digits → (∀ c ∈ more, p c = true) →
      Mantissa p (digits ++ '.' :: more)
  | fraction {digits : List Char} : Digits p digits → Mantissa p ('.' :: digits)

/-- Nothing, or a mark, an optional sign and digits. -/
inductive Exponent (p : Char → Bool) : List Char → Prop
  | absent : Exponent p []
  | written {mark : Char} {cs : List Char} : mark ∈ ['e', 'E'] → Signed (Digits p) cs →
      Exponent p (mark :: cs)

/-- A number without its sign. -/
def Magnitude (p : Char → Bool) (cs : List Char) : Prop :=
  ∃ mantissa exponent, cs = mantissa ++ exponent ∧ Mantissa p mantissa ∧ Exponent p exponent

/-- The characters of a numeral that are no digits. -/
def marks : List Char := ['+', '-', '.', 'e', 'E']

theorem isDigit_mark {c : Char} (h : c ∈ marks) : isDigit c = false := by
  have hall : marks.all (fun c => !isDigit c) = true := by decide
  simpa using List.all_eq_true.1 hall c h

theorem Signed.imp {P Q : List Char → Prop} (h : Signed P cs)
    (hPQ : ∀ rest, rest ⊆ cs → P rest → Q rest) : Signed Q cs := by
  obtain ⟨sign, hsign, rest, rfl, hrest⟩ := h
  exact ⟨sign, hsign, rest, rfl, hPQ rest (List.subset_append_right sign rest) hrest⟩

theorem Digits.imp (h : Digits p cs) (hpq : ∀ c ∈ cs, p c = true → q c = true) : Digits q cs :=
  ⟨h.1, fun c hc => hpq c hc (h.2 c hc)⟩

theorem Mantissa.imp (h : Mantissa p cs) (hpq : ∀ c ∈ cs, p c = true → q c = true) :
    Mantissa q cs := by
  cases h with
  | whole hdigits => exact .whole (hdigits.imp hpq)
  | pointed hdigits hmore =>
    exact .pointed (hdigits.imp fun c hc => hpq c (by simp [hc]))
      fun c hc => hpq c (by simp [hc]) (hmore c hc)
  | fraction hdigits => exact .fraction (hdigits.imp fun c hc => hpq c (by simp [hc]))

theorem Exponent.imp (h : Exponent p cs) (hpq : ∀ c ∈ cs, p c = true → q c = true) :
    Exponent q cs := by
  cases h with
  | absent => exact .absent
  | written hmark hsigned =>
    refine .written hmark (hsigned.imp fun rest hrest hdigits => hdigits.imp fun c hc => ?_)
    exact hpq c (List.mem_cons_of_mem _ (hrest hc))

theorem Magnitude.imp (h : Magnitude p cs) (hpq : ∀ c ∈ cs, p c = true → q c = true) :
    Magnitude q cs := by
  obtain ⟨mantissa, exponent, rfl, hmantissa, hexponent⟩ := h
  exact ⟨mantissa, exponent, rfl, hmantissa.imp fun c hc => hpq c (by simp [hc]),
    hexponent.imp fun c hc => hpq c (by simp [hc])⟩

theorem Signed.mem {P : List Char → Prop} {c : Char} (h : Signed P cs) (hc : c ∈ cs)
    (hP : ∀ rest, P rest → c ∈ rest → p c = true ∨ c ∈ marks) : p c = true ∨ c ∈ marks := by
  obtain ⟨sign, hsign, rest, rfl, hrest⟩ := h
  rcases List.mem_append.1 hc with hc | hc
  · have hall : ∀ sign ∈ [[], ['+'], ['-']], sign ⊆ marks := by decide
    exact .inr (hall sign hsign hc)
  · exact hP rest hrest hc

theorem Mantissa.mem {c : Char} (h : Mantissa p cs) (hc : c ∈ cs) : p c = true ∨ c ∈ marks := by
  have hpoint : '.' ∈ marks := by decide
  cases h with
  | whole hdigits => exact .inl (hdigits.2 c hc)
  | pointed hdigits hmore =>
    rcases List.mem_append.1 hc with hc | hc
    · exact .inl (hdigits.2 c hc)
    · rcases List.mem_cons.1 hc with rfl | hc
      · exact .inr hpoint
      · exact .inl (hmore c hc)
  | fraction hdigits =>
    rcases List.mem_cons.1 hc with rfl | hc
    · exact .inr hpoint
    · exact .inl (hdigits.2 c hc)

theorem Exponent.mem {c : Char} (h : Exponent p cs) (hc : c ∈ cs) : p c = true ∨ c ∈ marks := by
  cases h with
  | absent => cases hc
  | written hmark hsigned =>
    rcases List.mem_cons.1 hc with rfl | hc
    · have hall : ['e', 'E'] ⊆ marks := by decide
      exact .inr (hall hmark)
    · exact hsigned.mem hc fun rest hrest hc => .inl (hrest.2 c hc)

theorem Magnitude.mem {c : Char} (h : Magnitude p cs) (hc : c ∈ cs) : p c = true ∨ c ∈ marks := by
  obtain ⟨mantissa, exponent, rfl, hmantissa, hexponent⟩ := h
  rcases List.mem_append.1 hc with hc | hc
  · exact hmantissa.mem hc
  · exact hexponent.mem hc

/-! ## Grammars -/

/-- A grammar of numerals, for any class of digits. -/
structure Grammar where
  Fits : (Char → Bool) → List Char → Prop
  /-- Only the digits of a numeral depend on what digits are. -/
  imp : ∀ {p q : Char → Bool} {cs : List Char}, Fits p cs →
    (∀ c ∈ cs, p c = true → q c = true) → Fits q cs
  mem : ∀ {p : Char → Bool} {cs : List Char} {c : Char}, Fits p cs → c ∈ cs →
    p c = true ∨ c ∈ marks

namespace Grammar

def integer : Grammar where
  Fits p := Signed (Digits p)
  imp h hpq := h.imp fun _ hrest hdigits => hdigits.imp fun c hc => hpq c (hrest hc)
  mem h hc := h.mem hc fun _ hdigits hc => .inl (hdigits.2 _ hc)

def number : Grammar where
  Fits p := Signed (Magnitude p)
  imp h hpq := h.imp fun _ hrest hmagnitude => hmagnitude.imp fun c hc => hpq c (hrest hc)
  mem h hc := h.mem hc fun _ hmagnitude hc => hmagnitude.mem hc

variable {g : Grammar}

/-- A numeral with a digit that is none of ASCII. -/
def Foreign (g : Grammar) (cs : List Char) : Prop :=
  g.Fits isDigit cs ∧ ∃ c ∈ cs, isDigit c = true ∧ c.isDigit = false

theorem fits_ascii_iff : g.Fits Char.isDigit cs ↔
    g.Fits isDigit cs ∧ ∀ c ∈ cs, isDigit c = true → c.isDigit = true := by
  constructor
  · intro h
    refine ⟨g.imp h fun c _ => isDigit_ascii, fun c hc hdigit => (g.mem h hc).resolve_right ?_⟩
    intro hmark
    rw [isDigit_mark hmark] at hdigit
    cases hdigit
  · rintro ⟨h, hall⟩
    exact g.imp h hall

/-- What accepts the numerals of all scripts keeps to those of ASCII where no others are met. -/
theorem kept_iff {accepted : Prop} (h : accepted ↔ g.Fits isDigit cs) :
    (accepted ↔ g.Fits Char.isDigit cs) ↔ ¬g.Foreign cs := by
  rw [h, fits_ascii_iff, iff_self_and, Foreign, not_and, not_exists]
  simp only [not_and, Bool.not_eq_false]

end Grammar

/-! ## The readers -/

theorem allDigits_iff : allDigits cs = true ↔ Digits isDigit cs := by
  simp [allDigits, Digits]

theorem dropSign_iff {P : List Char → Prop} (hP : ∀ c ∈ ['+', '-'], ∀ rest, ¬P (c :: rest)) :
    P (dropSign cs) ↔ Signed P cs := by
  constructor
  · intro h
    unfold dropSign at h
    split at h
    · exact ⟨['+'], by simp, _, rfl, h⟩
    · exact ⟨['-'], by simp, _, rfl, h⟩
    · exact ⟨[], by simp, cs, rfl, h⟩
  · rintro ⟨sign, hsign, rest, rfl, hrest⟩
    rcases (by simpa using hsign : sign = [] ∨ sign = ['+'] ∨ sign = ['-']) with rfl | rfl | rfl
    · -- what follows is no second sign
      rw [List.nil_append]
      unfold dropSign
      split
      · exact absurd hrest (hP '+' (by simp) _)
      · exact absurd hrest (hP '-' (by simp) _)
      · exact hrest
    · exact hrest
    · exact hrest

theorem allDigits_dropSign_iff : allDigits (dropSign cs) = true ↔ Signed (Digits isDigit) cs := by
  rw [allDigits_iff]
  refine dropSign_iff fun c hc rest hdigits => ?_
  have hsigns : ['+', '-'] ⊆ marks := by decide
  have hdigit := hdigits.2 c List.mem_cons_self
  rw [isDigit_mark (hsigns hc)] at hdigit
  cases hdigit

theorem isExponent_iff : isExponent cs = true ↔ Exponent isDigit cs := by
  constructor
  · intro h
    cases cs with
    | nil => exact .absent
    | cons mark cs =>
      rw [isExponent, Bool.and_eq_true, allDigits_dropSign_iff] at h
      exact .written (by simpa using h.1) h.2
  · rintro (_ | ⟨hmark, hsigned⟩)
    · rfl
    · rw [isExponent, Bool.and_eq_true, allDigits_dropSign_iff]
      exact ⟨by simpa using hmark, hsigned⟩

/-- An exponent begins with no digit and no point. -/
theorem Exponent.head?_eq (h : Exponent p cs) {c : Char} (hc : cs.head? = some c) :
    isDigit c = false ∧ c ≠ '.' := by
  cases h with
  | absent => cases hc
  | written hmark _ =>
    cases hc
    have hmarks : ['e', 'E'] ⊆ marks := by decide
    refine ⟨isDigit_mark (hmarks hmark), ?_⟩
    rintro rfl
    exact absurd hmark (by decide)

theorem isMagnitude_whole {digits exponent : List Char} (hdigits : ∀ c ∈ digits, isDigit c = true)
    (h : ∀ c, exponent.head? = some c → isDigit c = false ∧ c ≠ '.') :
    isMagnitude (digits ++ exponent) = (!digits.isEmpty && isExponent exponent) := by
  obtain ⟨htake, hdrop⟩ := span_append hdigits fun c hc => (h c hc).1
  simp only [isMagnitude, htake, hdrop]
  split
  · exact absurd rfl (h '.' rfl).2
  · rfl

theorem isMagnitude_pointed {digits more exponent : List Char}
    (hdigits : ∀ c ∈ digits, isDigit c = true) (hmore : ∀ c ∈ more, isDigit c = true)
    (h : ∀ c, exponent.head? = some c → isDigit c = false) :
    isMagnitude (digits ++ '.' :: (more ++ exponent)) =
      ((!digits.isEmpty || !more.isEmpty) && isExponent exponent) := by
  have hpoint : isDigit '.' = false := by decide
  have hhead : ∀ c, ('.' :: (more ++ exponent)).head? = some c → isDigit c = false := by
    simpa using hpoint
  obtain ⟨htake, hdrop⟩ := span_append hdigits hhead
  obtain ⟨htake', hdrop'⟩ := span_append hmore h
  simp only [isMagnitude, htake, hdrop, htake', hdrop']

theorem isMagnitude_iff : isMagnitude cs = true ↔ Magnitude isDigit cs := by
  constructor
  · intro h
    have hcs : cs.takeWhile isDigit ++ cs.dropWhile isDigit = cs := List.takeWhile_append_dropWhile
    have hwhole : ∀ c ∈ cs.takeWhile isDigit, isDigit c = true :=
      fun c hc => List.mem_takeWhile_imp hc
    simp only [isMagnitude] at h
    split at h
    · rename_i rest hrest
      simp only [Bool.and_eq_true, Bool.or_eq_true, Bool.not_eq_true',
        List.isEmpty_eq_false_iff] at h
      obtain ⟨hsome, hexponent⟩ := h
      have hmore : ∀ c ∈ rest.takeWhile isDigit, isDigit c = true :=
        fun c hc => List.mem_takeWhile_imp hc
      refine ⟨cs.takeWhile isDigit ++ '.' :: rest.takeWhile isDigit, rest.dropWhile isDigit, ?_, ?_,
        isExponent_iff.1 hexponent⟩
      · rw [List.append_assoc, List.cons_append, List.takeWhile_append_dropWhile, ← hrest, hcs]
      · by_cases hnone : cs.takeWhile isDigit = []
        · rw [hnone]
          exact .fraction ⟨hsome.resolve_left (absurd hnone), hmore⟩
        · exact .pointed ⟨hnone, hwhole⟩ hmore
    · simp only [Bool.and_eq_true, Bool.not_eq_true', List.isEmpty_eq_false_iff] at h
      exact ⟨_, _, hcs.symm, .whole ⟨h.1, hwhole⟩, isExponent_iff.1 h.2⟩
  · rintro ⟨mantissa, exponent, rfl, hmantissa, hexponent⟩
    have hhead : ∀ c, exponent.head? = some c → isDigit c = false ∧ c ≠ '.' :=
      fun c hc => hexponent.head?_eq hc
    cases hmantissa with
    | whole hdigits =>
      rw [isMagnitude_whole hdigits.2 hhead]
      simp [hdigits.1, isExponent_iff.2 hexponent]
    | @pointed digits more hdigits hmore =>
      rw [List.append_assoc, List.cons_append,
        isMagnitude_pointed hdigits.2 hmore fun c hc => (hhead c hc).1]
      simp [hdigits.1, isExponent_iff.2 hexponent]
    | @fraction digits hdigits =>
      have hnone : ∀ c ∈ ([] : List Char), isDigit c = true := by simp
      have hmagnitude := isMagnitude_pointed hnone hdigits.2 fun c hc => (hhead c hc).1
      rw [List.cons_append, ← List.nil_append ('.' :: (digits ++ exponent)), hmagnitude]
      simp [hdigits.1, isExponent_iff.2 hexponent]

theorem Mantissa.exists_cons (h : Mantissa p cs) :
    ∃ c rest, cs = c :: rest ∧ (p c = true ∨ c = '.') := by
  cases h with
  | whole hdigits =>
    obtain ⟨c, rest, rfl⟩ := List.exists_cons_of_ne_nil hdigits.1
    exact ⟨c, rest, rfl, .inl (hdigits.2 c List.mem_cons_self)⟩
  | pointed hdigits _ =>
    obtain ⟨c, rest, rfl⟩ := List.exists_cons_of_ne_nil hdigits.1
    exact ⟨c, _, rfl, .inl (hdigits.2 c List.mem_cons_self)⟩
  | fraction _ => exact ⟨'.', _, rfl, .inr rfl⟩

theorem isMagnitude_dropSign_iff :
    isMagnitude (dropSign cs) = true ↔ Signed (Magnitude isDigit) cs := by
  rw [isMagnitude_iff]
  refine dropSign_iff fun c hc rest hmagnitude => ?_
  have hsigns : ['+', '-'] ⊆ marks := by decide
  obtain ⟨mantissa, exponent, heq, hmantissa, -⟩ := hmagnitude
  obtain ⟨d, rest', rfl, hd⟩ := hmantissa.exists_cons
  cases heq
  rcases hd with hdigit | rfl
  · rw [isDigit_mark (hsigns hc)] at hdigit
    cases hdigit
  · exact absurd hc (by decide)

theorem numberLiteral?_eq_some_iff {raw n : String} : numberLiteral? raw = some n ↔
    Grammar.number.Fits isDigit (strip raw).toList ∧ n = strip raw := by
  rw [numberLiteral?, Option.ite_none_right_eq_some, isMagnitude_dropSign_iff, Option.some.injEq,
    eq_comm (a := n)]
  exact Iff.rfl

theorem integerLiteral?_eq_some_iff {raw n : String} : integerLiteral? raw = some n ↔
    Grammar.integer.Fits isDigit (strip raw).toList ∧ n = strip raw := by
  rw [integerLiteral?, Option.ite_none_right_eq_some, allDigits_dropSign_iff, Option.some.injEq,
    eq_comm (a := n)]
  exact Iff.rfl

/-! ## What is written -/

/-- The value is written as it is, without the blanks around it, if it is a numeral of the grammar
in the digits of any scripts, and refused otherwise. That keeps to the digits of ASCII unless the
value is a numeral with other ones. -/
structure TakesNumeral (g : Grammar) (name raw : String) (expected : Expected)
    (x : Except Problem Call.Argument) : Prop where
  accepted : g.Fits isDigit (strip raw).toList → x = .ok ⟨[], strip raw⟩
  refused : ¬g.Fits isDigit (strip raw).toList →
    x = .error (.refused (.invalidValue name raw expected))
  kept : ((∃ a, x = .ok a) ↔ g.Fits Char.isDigit (strip raw).toList) ↔
    ¬g.Foreign (strip raw).toList

theorem takesNumeral_of {g : Grammar} {name raw : String} {expected : Expected}
    {x : Except Problem Call.Argument} {read? : Option String}
    (h : ∀ n, read? = some n ↔ g.Fits isDigit (strip raw).toList ∧ n = strip raw)
    (hsome : ∀ n, read? = some n → x = .ok ⟨[], n⟩)
    (hnone : read? = none → x = Call.refuse name raw expected) :
    TakesNumeral g name raw expected x := by
  have haccepted : g.Fits isDigit (strip raw).toList → x = .ok ⟨[], strip raw⟩ :=
    fun hfits => hsome _ ((h _).2 ⟨hfits, rfl⟩)
  have hrefused : ¬g.Fits isDigit (strip raw).toList → x = Call.refuse name raw expected :=
    fun hnot => hnone (Option.eq_none_iff_forall_ne_some.2 fun n hn => hnot ((h n).1 hn).1)
  refine ⟨haccepted, hrefused, Grammar.kept_iff ⟨?_, fun hfits => ⟨_, haccepted hfits⟩⟩⟩
  rintro ⟨a, ha⟩
  by_contra hnot
  rw [hrefused hnot] at ha
  cases ha

theorem TakesNumeral.ok_iff {g : Grammar} {name raw : String} {expected : Expected}
    {x : Except Problem Call.Argument} (h : TakesNumeral g name raw expected x)
    {a : Call.Argument} :
    x = .ok a ↔ g.Fits isDigit (strip raw).toList ∧ a = ⟨[], strip raw⟩ := by
  by_cases hfits : g.Fits isDigit (strip raw).toList
  · rw [h.accepted hfits]
    simp [hfits, eq_comm]
  · rw [h.refused hfits]
    simp [hfits]

theorem argument_takesNumeral (r : ClassRegistry) (name : String) (optional : Bool) (raw : String) :
    TakesNumeral .number name raw .number (Call.argument r ⟨name, .number, optional⟩ raw) := by
  refine takesNumeral_of (fun n => numberLiteral?_eq_some_iff) (fun n hn => ?_) fun hnone => ?_
  · simp only [Call.argument, hn]
  · simp only [Call.argument, hnone]

theorem propertyArgument_takesNumeral (r : ClassRegistry) (p : Property) (raw : String) :
    TakesNumeral .integer p.name raw .integer
      (Specifier.propertyArgument r { p with kind := .integer } raw) := by
  refine takesNumeral_of (fun n => integerLiteral?_eq_some_iff) (fun n hn => ?_) fun hnone => ?_
  · simp only [Specifier.propertyArgument, hn]
  · simp only [Specifier.propertyArgument, hnone]

theorem writeScript_integer_ok_iff {r : ClassRegistry} {s : Specifier} {p : Property}
    {raw script : String} :
    s.writeScript r { p with kind := .integer } raw = .ok script ↔ p.writable = true ∧
      Grammar.integer.Fits isDigit (strip raw).toList ∧
        script =
          ofLines (s.statements ++ [assign s.reference (strip raw), answer s.reference]) := by
  rw [Specifier.writeScript_eq_ok_iff]
  refine and_congr_right fun _ => ?_
  simp only [(propertyArgument_takesNumeral r p raw).ok_iff]
  constructor
  · rintro ⟨a, ⟨hfits, rfl⟩, rfl⟩
    exact ⟨hfits, by rw [List.append_nil]⟩
  · rintro ⟨hfits, rfl⟩
    exact ⟨_, ⟨hfits, rfl⟩, by rw [List.append_nil]⟩

/-- **Numbers that are written bare**: a value is taken for a number or an integer exactly when it
is a numeral in the digits of any scripts, and then stands in the script as it is. So the numerals
of ASCII, and nothing else, are taken for all values but numerals with other digits. -/
theorem numerals_written (raw : String) :
    (∀ r name optional,
      TakesNumeral .number name raw .number (Call.argument r ⟨name, .number, optional⟩ raw)) ∧
    (∀ r (p : Property), TakesNumeral .integer p.name raw .integer
      (Specifier.propertyArgument r { p with kind := .integer } raw)) ∧
    (∀ r (s : Specifier) (p : Property) script,
      s.writeScript r { p with kind := .integer } raw = .ok script ↔ p.writable = true ∧
        Grammar.integer.Fits isDigit (strip raw).toList ∧
          script =
            ofLines (s.statements ++ [assign s.reference (strip raw), answer s.reference])) ∧
    ∀ classes commands name values k, call classes commands name values = .ok k →
      ∃ args, Call.Follows classes k.command values args k ∧
        ∀ pa ∈ args, pa.1.kind = .number → values.get? pa.1.name = some raw →
          Grammar.number.Fits isDigit (strip raw).toList ∧ pa.2 = ⟨[], strip raw⟩ := by
  refine ⟨fun r name optional => argument_takesNumeral r name optional raw,
    fun r p => propertyArgument_takesNumeral r p raw,
    fun r s p script => writeScript_integer_ok_iff, ?_⟩
  intro classes commands name values k hcall
  obtain ⟨args, hfollows⟩ := exists_follows hcall
  refine ⟨args, hfollows, fun pa hpa hkind hraw => ?_⟩
  obtain ⟨raw', hraw', ha⟩ := hfollows.given pa hpa
  rw [hraw] at hraw'
  cases hraw'
  obtain ⟨⟨pname, kind, optional⟩, a⟩ := pa
  cases hkind
  exact (argument_takesNumeral classes pname optional raw).ok_iff.1 ha

theorem numerals_written_volume :
    Call.argument ⟨none⟩ ⟨"value", .number, false⟩ " -12.5e3 " = .ok ⟨[], "-12.5e3"⟩ ∧
    Call.argument ⟨none⟩ ⟨"value", .number, false⟩ "12,5" =
      .error (.refused (.invalidValue "value" "12,5" .number)) := by
  have hstrip : strip " -12.5e3 " = "-12.5e3" := by decide
  constructor
  · have haccepted := ((numerals_written " -12.5e3 ").1 ⟨none⟩ "value" false).accepted
    rw [hstrip] at haccepted
    exact haccepted (isMagnitude_dropSign_iff.1 (by decide))
  · refine ((numerals_written "12,5").1 ⟨none⟩ "value" false).refused fun hfits => ?_
    exact absurd (isMagnitude_dropSign_iff.2 hfits) (by decide)

/-- The Arabic digit three is taken for a number and for an integer. -/
theorem foreign_digit_written :
    (Call.argument ⟨none⟩ ⟨"value", .number, false⟩ "\u0663" = .ok ⟨[], "\u0663"⟩ ∧
      ¬Grammar.number.Fits Char.isDigit (strip "\u0663").toList) ∧
    (Specifier.propertyArgument ⟨none⟩ ⟨"rating", .integer, .readWrite, "integer"⟩ "\u0663" =
        .ok ⟨[], "\u0663"⟩ ∧
      ¬Grammar.integer.Fits Char.isDigit (strip "\u0663").toList) := by
  have hforeign : ¬∀ c ∈ (strip "\u0663").toList, isDigit c = true → c.isDigit = true :=
    fun h => absurd (h '\u0663' (by decide) (by decide)) (by decide)
  refine ⟨⟨by decide, fun h => hforeign ?_⟩, ⟨by decide, fun h => hforeign ?_⟩⟩
  · exact (Grammar.fits_ascii_iff.1 h).2
  · exact (Grammar.fits_ascii_iff.1 h).2

end ScriptGateway.Script
