import ScriptGateway.Gateway.Route
import ScriptGateway.Proofs.Outcome

/-!
# Literals without quotes

A value that is written as it stands ought to be one literal from its first character to its last.
`SelfContained` says so by a scan that counts the open braces and passes over texts: either nothing
in the literal could open or close anything, or a brace opens it and is closed by its last character
and not before.

Between two braces, the scan accepts exactly the `Balanced` rows of characters
(`closes_iff_balanced`). `bareLiteral?` asks for no more than a single line there, so that some of
the values it accepts are cut short by their own braces or texts: exactly those that are
`Unbalanced`, wherever such a value is taken (`bare_values_selfContained_iff`).
-/

set_option autoImplicit false

namespace ScriptGateway.Script

/-! ## Scanning -/

/-- Where a scan stands: outside texts, in a text, or behind a backslash in a text. -/
inductive Mode
  | code
  | text
  | escape
  deriving DecidableEq

/-- The state of a scan, with the number of open braces. -/
structure Scan where
  mode : Mode
  depth : Nat
  deriving DecidableEq

def Scan.step (σ : Scan) (c : Char) : Scan :=
  match σ.mode with
  | .code =>
    if c = '"' then { σ with mode := .text }
    else if c = '{' then { σ with depth := σ.depth + 1 }
    else if c = '}' then { σ with depth := σ.depth - 1 }
    else σ
  | .text =>
    if c = '"' then { σ with mode := .code }
    else if c = '\\' then { σ with mode := .escape }
    else σ
  | .escape => { σ with mode := .text }

def Scan.run (σ : Scan) (cs : List Char) : Scan := cs.foldl Scan.step σ

/-- From `σ` on, the last character closes the last open brace: some brace is open before it, and
none and no text after it. -/
def Scan.Closes (σ : Scan) (cs : List Char) : Prop :=
  (∀ front, front <+: cs → front ≠ cs → 1 ≤ (σ.run front).depth) ∧ σ.run cs = ⟨.code, 0⟩

/-- The literal cannot end before its last character. -/
def SelfContained (lit : String) : Prop :=
  (∀ c ∈ lit.toList, c ≠ '{' ∧ c ≠ '}' ∧ c ≠ '"') ∨
    ∃ rest, lit.toList = '{' :: rest ∧ Scan.Closes ⟨.code, 1⟩ rest

namespace Scan

theorem closes_nil (σ : Scan) : σ.Closes [] ↔ σ = ⟨.code, 0⟩ := by
  constructor
  · exact fun h => h.2
  · intro h
    exact ⟨fun front hf hne => absurd (List.prefix_nil.1 hf) hne, h⟩

theorem closes_cons (σ : Scan) (c : Char) (cs : List Char) :
    σ.Closes (c :: cs) ↔ 1 ≤ σ.depth ∧ (σ.step c).Closes cs := by
  constructor
  · rintro ⟨hopen, hend⟩
    refine ⟨hopen [] (List.nil_prefix) (by simp), fun front hf hne => ?_, hend⟩
    exact hopen (c :: front) (List.cons_prefix_cons.2 ⟨rfl, hf⟩) (by simpa using hne)
  · rintro ⟨hpos, hopen, hend⟩
    refine ⟨fun front hf hne => ?_, hend⟩
    rcases List.prefix_cons_iff.1 hf with rfl | ⟨front', rfl, hf'⟩
    · exact hpos
    · exact hopen front' hf' (by simpa using hne)

end Scan

/-! ## Balanced rows of characters -/

/-- What may stand between the quotes of a text. -/
inductive TextBody : List Char → Prop
  | nil : TextBody []
  | plain {c : Char} {cs : List Char} : c ≠ '"' → c ≠ '\\' → TextBody cs → TextBody (c :: cs)
  | escape {c : Char} {cs : List Char} : TextBody cs → TextBody ('\\' :: c :: cs)

/-- What may stand between the braces of a record. -/
inductive Balanced : List Char → Prop
  | nil : Balanced []
  | plain {c : Char} {cs : List Char} :
      c ≠ '"' → c ≠ '{' → c ≠ '}' → Balanced cs → Balanced (c :: cs)
  | text {body cs : List Char} :
      TextBody body → Balanced cs → Balanced ('"' :: (body ++ '"' :: cs))
  | braces {inner cs : List Char} :
      Balanced inner → Balanced cs → Balanced ('{' :: (inner ++ '}' :: cs))

/-- Balanced rows with a brace behind each that closes one of `k` open ones. -/
inductive Closing : (k : Nat) → List Char → Prop
  | done : Closing 0 []
  | brace {k : Nat} {inner rest : List Char} :
      Balanced inner → Closing k rest → Closing (k + 1) (inner ++ '}' :: rest)

namespace Closing

variable {k : Nat} {c : Char} {cs rest : List Char}

theorem plain (hq : c ≠ '"') (ho : c ≠ '{') (hc : c ≠ '}') (h : Closing (k + 1) cs) :
    Closing (k + 1) (c :: cs) := by
  cases h with
  | brace hb hr => exact .brace (.plain hq ho hc hb) hr

theorem text {body : List Char} (ht : TextBody body) (h : Closing (k + 1) rest) :
    Closing (k + 1) ('"' :: (body ++ '"' :: rest)) := by
  cases h with
  | brace hb hr => simpa using Closing.brace (.text ht hb) hr

/-- The row after an opening brace has one brace more to close. -/
theorem opened (h : Closing (k + 2) cs) : Closing (k + 1) ('{' :: cs) := by
  cases h with
  | brace hb hr =>
    cases hr with
    | brace hb' hr' => simpa using Closing.brace (.braces hb hb') hr'

end Closing

/-- What a scan in this mode, with `k` open braces, still has to read. -/
def Owed (k : Nat) (cs : List Char) : Mode → Prop
  | .code => Closing k cs
  | .text => ∃ body rest, TextBody body ∧ cs = body ++ '"' :: rest ∧ Closing k rest
  | .escape => ∃ c body rest, TextBody body ∧ cs = c :: (body ++ '"' :: rest) ∧ Closing k rest

namespace Scan

/-- One character of a scan, read backwards: what is owed after it gives what is owed before. -/
theorem owed_step {σ : Scan} {c : Char} {cs : List Char} (hpos : 1 ≤ σ.depth)
    (h : Owed (σ.step c).depth cs (σ.step c).mode) : Owed σ.depth (c :: cs) σ.mode := by
  obtain ⟨mode, k⟩ := σ
  obtain ⟨k, rfl⟩ : ∃ j, k = j + 1 := ⟨k - 1, by simp at hpos; omega⟩
  cases mode with
  | code =>
    by_cases hq : c = '"'
    · subst hq
      obtain ⟨body, rest, ht, rfl, hr⟩ := h
      exact .text ht hr
    by_cases ho : c = '{'
    · subst ho
      exact Closing.opened h
    by_cases hc : c = '}'
    · subst hc
      exact .brace .nil h
    · simp only [step, hq, ho, hc, ite_false] at h
      exact Closing.plain hq ho hc h
  | text =>
    by_cases hq : c = '"'
    · subst hq
      exact ⟨[], cs, .nil, rfl, h⟩
    by_cases hb : c = '\\'
    · subst hb
      obtain ⟨d, body, rest, ht, rfl, hr⟩ := h
      exact ⟨_, rest, .escape ht, rfl, hr⟩
    · simp only [step, hq, hb, ite_false] at h
      obtain ⟨body, rest, ht, rfl, hr⟩ := h
      exact ⟨_, rest, .plain hq hb ht, rfl, hr⟩
  | escape =>
    obtain ⟨body, rest, ht, rfl, hr⟩ := h
    exact ⟨c, body, rest, ht, rfl, hr⟩

theorem Closes.owed {σ : Scan} {cs : List Char} (h : σ.Closes cs) : Owed σ.depth cs σ.mode := by
  induction cs generalizing σ with
  | nil =>
    rw [(closes_nil σ).1 h]
    exact .done
  | cons c cs ih =>
    obtain ⟨hpos, hrest⟩ := (closes_cons σ c cs).1 h
    exact owed_step hpos (ih hrest)

/-- A scan comes out of a text behind its closing quote. -/
theorem closes_text_iff {body : List Char} (h : TextBody body) (k : Nat) (rest : List Char) :
    Closes ⟨.text, k + 1⟩ (body ++ '"' :: rest) ↔ Closes ⟨.code, k + 1⟩ rest := by
  induction h with
  | nil => simp [closes_cons, step]
  | plain hq hb _ ih => simpa [closes_cons, step, hq, hb] using ih
  | escape _ ih => simpa [closes_cons, step] using ih

/-- A scan with an open brace passes over a balanced row. -/
theorem closes_append_iff {inner : List Char} (h : Balanced inner) (k : Nat) (rest : List Char) :
    Closes ⟨.code, k + 1⟩ (inner ++ rest) ↔ Closes ⟨.code, k + 1⟩ rest := by
  induction h generalizing k rest with
  | nil => rfl
  | plain hq ho hc _ ih => simpa [closes_cons, step, hq, ho, hc] using ih k rest
  | @text body cs ht _ ih =>
    rw [← ih k rest, ← closes_text_iff ht k (cs ++ rest)]
    simp [closes_cons, step]
  | braces _ _ ih ih' =>
    rw [← ih' k rest]
    simp [closes_cons, step, ih]

/-- **Scan and grammar agree**: the brace behind `inner` closes the one before it exactly when
`inner` is balanced. -/
theorem closes_iff_balanced (inner : List Char) :
    Closes ⟨.code, 1⟩ (inner ++ ['}']) ↔ Balanced inner := by
  constructor
  · intro h
    have hclosing : Closing 1 (inner ++ ['}']) := h.owed
    generalize hcs : inner ++ ['}'] = cs at hclosing
    cases hclosing with
    | brace hb hr =>
      cases hr
      obtain ⟨rfl, -⟩ := List.append_inj' hcs rfl
      exact hb
  · intro h
    rw [closes_append_iff h 0, closes_cons, closes_nil]
    exact ⟨Nat.le_refl 1, rfl⟩

end Scan

/-! ## The literals that are accepted -/

theorem isRecord_iff {cs : List Char} :
    isRecord cs = true ↔ ∃ inner, cs = '{' :: (inner ++ ['}']) ∧ '\r' ∉ inner ∧ '\n' ∉ inner := by
  constructor
  · intro h
    unfold isRecord at h
    split at h
    · rename_i rest
      obtain ⟨hlast, hline⟩ := by simpa only [Bool.and_eq_true, decide_eq_true_eq] using h
      obtain ⟨inner, rfl⟩ := List.getLast?_eq_some_iff.1 hlast
      refine ⟨inner, rfl, ?_, ?_⟩
      · intro hmem
        simpa using List.all_eq_true.1 hline '\r' (by simp [hmem])
      · intro hmem
        simpa using List.all_eq_true.1 hline '\n' (by simp [hmem])
    · cases h
  · rintro ⟨inner, rfl, hr, hn⟩
    have hline : ∀ c ∈ inner, c ≠ '\r' ∧ c ≠ '\n' := by
      intro c hc
      exact ⟨fun h => hr (h ▸ hc), fun h => hn (h ▸ hc)⟩
    simpa [isRecord] using hline

theorem isBareChar_ne {c : Char} (h : isBareChar c = true) : c ≠ '{' ∧ c ≠ '}' ∧ c ≠ '"' := by
  refine ⟨?_, ?_, ?_⟩
  all_goals
    rintro rfl
    exact absurd h (by decide)

theorem bareLiteral?_eq_some_iff {raw lit : String} :
    bareLiteral? raw = some lit ↔ lit = Text.strip raw ∧
      ((lit.toList ≠ [] ∧ ∀ c ∈ lit.toList, isBareChar c = true) ∨
        ∃ inner, lit.toList = '{' :: (inner ++ ['}']) ∧ '\r' ∉ inner ∧ '\n' ∉ inner) := by
  simp only [bareLiteral?, Option.ite_none_right_eq_some, Option.some.injEq, Bool.or_eq_true,
    Bool.and_eq_true, Bool.not_eq_true', List.all_eq_true, isRecord_iff, List.isEmpty_eq_false_iff]
  constructor
  · rintro ⟨h, rfl⟩
    exact ⟨rfl, h⟩
  · rintro ⟨rfl, h⟩
    exact ⟨h, rfl⟩

/-- The value is a single line between two braces, but the first brace is not closed by the last
one: it is closed before, or a text or another brace is left open. -/
def Unbalanced (raw : String) : Prop :=
  ∃ inner, (Text.strip raw).toList = '{' :: (inner ++ ['}']) ∧ '\r' ∉ inner ∧ '\n' ∉ inner ∧
    ¬ Balanced inner

theorem selfContained_record {lit : String} {inner : List Char}
    (h : lit.toList = '{' :: (inner ++ ['}'])) : SelfContained lit ↔ Balanced inner := by
  rw [← Scan.closes_iff_balanced]
  constructor
  · rintro (hplain | ⟨rest, hrest, hc⟩)
    · exact absurd rfl (hplain '{' (by simp [h])).1
    · rw [h] at hrest
      obtain rfl : inner ++ ['}'] = rest := by simpa using hrest
      exact hc
  · exact fun hc => .inr ⟨_, h, hc⟩

/-- A value gives a self-contained literal, if it gives one, unless it is unbalanced. -/
theorem selfContained_of_bareLiteral?_iff (raw : String) :
    (∀ lit, bareLiteral? raw = some lit → SelfContained lit) ↔ ¬ Unbalanced raw := by
  constructor
  · rintro h ⟨inner, hraw, hr, hn, hbad⟩
    have hlit := bareLiteral?_eq_some_iff.2 ⟨rfl, .inr ⟨inner, hraw, hr, hn⟩⟩
    exact hbad ((selfContained_record hraw).1 (h _ hlit))
  · intro h lit hlit
    obtain ⟨rfl, ⟨-, hbare⟩ | ⟨inner, hraw, hr, hn⟩⟩ := bareLiteral?_eq_some_iff.1 hlit
    · exact .inl fun c hc => isBareChar_ne (hbare c hc)
    · rw [selfContained_record hraw]
      exact Classical.byContradiction fun hbad => h ⟨inner, hraw, hr, hn, hbad⟩

end ScriptGateway.Script

namespace ScriptGateway

/-! ## Where such literals are taken -/

theorem Call.argument_constant_ok_iff {r : ClassRegistry} {name raw : String} {optional : Bool}
    {a : Call.Argument} :
    Call.argument r ⟨name, .constant, optional⟩ raw = .ok a ↔
      ∃ lit, Script.bareLiteral? raw = some lit ∧ a = ⟨[], lit⟩ := by
  simp only [Call.argument]
  cases Script.bareLiteral? raw with
  | none => simp [Call.refuse]
  | some lit => simp [eq_comm]

theorem Specifier.propertyArgument_bare_ok_iff {r : ClassRegistry} {p : Property} {raw : String}
    {a : Call.Argument} (hp : p.kind = .enumerated ∨ p.kind = .other) :
    Specifier.propertyArgument r p raw = .ok a ↔
      ∃ lit, Script.bareLiteral? raw = some lit ∧ a = ⟨[], lit⟩ := by
  unfold Specifier.propertyArgument
  rcases hp with hp | hp <;> rw [hp]
  all_goals
    cases Script.bareLiteral? raw with
    | none => simp [Call.refuse]
    | some lit => simp [eq_comm]

/-- What holds of the literal of every accepted value holds of every argument made from one. -/
theorem forall_argument_iff {α : Type} {raw : String} {x : Except α Call.Argument}
    {P : String → Prop}
    (h : ∀ a, x = .ok a ↔ ∃ lit, Script.bareLiteral? raw = some lit ∧ a = ⟨[], lit⟩) :
    (∀ a, x = .ok a → P a.literal) ↔ ∀ lit, Script.bareLiteral? raw = some lit → P lit := by
  constructor
  · intro hall lit hlit
    exact hall ⟨[], lit⟩ ((h _).2 ⟨lit, hlit, rfl⟩)
  · intro hall a ha
    obtain ⟨lit, hlit, rfl⟩ := (h a).1 ha
    exact hall lit hlit

/-- **Which values are written as one literal**: a value that is accepted without quotes, for a
constant parameter or for an enumerated or other property, is self-contained in the script unless it
is unbalanced. -/
theorem bare_values_selfContained_iff (raw : String) :
    ((∀ lit, Script.bareLiteral? raw = some lit → Script.SelfContained lit) ↔
      ¬ Script.Unbalanced raw) ∧
    (∀ r name optional, (∀ a, Call.argument r ⟨name, .constant, optional⟩ raw = .ok a →
      Script.SelfContained a.literal) ↔ ¬ Script.Unbalanced raw) ∧
    ∀ r (p : Property),
      ((∀ a, Specifier.propertyArgument r { p with kind := .enumerated } raw = .ok a →
        Script.SelfContained a.literal) ↔ ¬ Script.Unbalanced raw) ∧
      ((∀ a, Specifier.propertyArgument r { p with kind := .other } raw = .ok a →
        Script.SelfContained a.literal) ↔ ¬ Script.Unbalanced raw) := by
  have hlit := Script.selfContained_of_bareLiteral?_iff raw
  refine ⟨hlit, fun r name optional => ?_, fun r p => ⟨?_, ?_⟩⟩
  · rw [forall_argument_iff fun a => Call.argument_constant_ok_iff, hlit]
  · rw [forall_argument_iff fun a => Specifier.propertyArgument_bare_ok_iff (.inl rfl), hlit]
  · rw [forall_argument_iff fun a => Specifier.propertyArgument_bare_ok_iff (.inr rfl), hlit]

/-- Two empty records with a call of the shell between them pass for one record. -/
theorem constant_not_selfContained :
    ∃ a, Call.argument ⟨none⟩ ⟨"new", .constant, false⟩
        "\x7b\x7d & (do shell script \"x\") & \x7b\x7d" = .ok a ∧
      a.literal = "\x7b\x7d & (do shell script \"x\") & \x7b\x7d" ∧
      ¬ Script.SelfContained a.literal := by
  have hlit : Script.bareLiteral? "\x7b\x7d & (do shell script \"x\") & \x7b\x7d" =
      some "\x7b\x7d & (do shell script \"x\") & \x7b\x7d" := by decide +kernel
  refine ⟨_, Call.argument_constant_ok_iff.2 ⟨_, hlit, rfl⟩, rfl, ?_⟩
  rintro (hplain | ⟨rest, hrest, hopen, -⟩)
  · exact absurd rfl (hplain '{' (by decide +kernel)).1
  · -- the second character closes the only open brace
    obtain rfl : "\x7d & (do shell script \"x\") & \x7b\x7d".toList = rest := by
      have hcons : ("\x7b\x7d & (do shell script \"x\") & \x7b\x7d").toList =
          '{' :: "\x7d & (do shell script \"x\") & \x7b\x7d".toList := by decide +kernel
      exact (List.cons.inj (hcons.symm.trans hrest)).2
    exact absurd (hopen ['}'] (by decide +kernel) (by decide +kernel)) (by decide +kernel)

end ScriptGateway
