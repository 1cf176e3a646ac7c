import ScriptGateway.Proofs.Command.Serialization
import ScriptGateway.Proofs.Script.Comments
import ScriptGateway.Proofs.Specifier.Names

/-!
# Comments in calls

The line of a call is made of the names of a dictionary and of the literals of the values. A comment
that two hyphens begin in it would take the rest of the line out of the call. No other comments are
meant here.

Of the literals only those of constants can begin a comment: a constant may be a row of hyphens, and
a record may hold anything. So over a dictionary with inert names nothing is taken out of a call
exactly when none of its constants begins a comment (`call_uncommented_iff`).
-/

set_option autoImplicit false

namespace ScriptGateway

open Script

instance (P : String → Prop) [DecidablePred P] (t : ClassTable) : Decidable (t.Named P) :=
  inferInstanceAs (Decidable (∀ c ∈ t.classes, P c.name ∧ ∀ p ∈ c.properties.values, P p.name))

/-! ## Objects -/

theorem inert_ofWhole {what whole : String} (hwhat : Inert what) (hwhole : Inert whole) :
    Inert (ofWhole what whole) := by
  have hwords : ∀ w ∈ [what, "of", whole], Inert w := by
    simp only [List.forall_mem_cons]
    exact ⟨hwhat, by decide +kernel, hwhole, by simp⟩
  have hjoined : ofWhole what whole = Text.joinWith " " [what, "of", whole] :=
    String.toList_inj.1 (by simp [ofWhole, Text.joinWith])
  rw [hjoined]
  exact Inert.joinWith hwords

theorem inert_every {name : String} (h : Inert name) : Inert ("every " ++ name) := by
  have hwords : ∀ w ∈ ["every", name], Inert w := by
    simp only [List.forall_mem_cons]
    exact ⟨by decide +kernel, h, by simp⟩
  exact Inert.joinWith hwords

/-- A variable of a parameter has letters, digits and underscores only. -/
theorem inert_variableName (name : String) (n : Nat) :
    Inert (Specifier.variableName (Naming.variableStem name) n) := by
  refine Inert.of_forall fun c hc => ?_
  rw [Specifier.variableName, String.toList_append, List.mem_append] at hc
  rcases hc with hstem | hdigit
  · rcases Naming.mem_variableStem hstem with halnum | rfl
    · constructor
      · rintro rfl
        exact absurd halnum (by decide)
      · rintro rfl
        exact absurd halnum (by decide)
    · decide
  · have hc := Text.isDigit_of_mem_toDigits (n := n) (by simpa using hdigit)
    exact ⟨Text.ne_of_isDigit hc (by decide), Text.ne_of_isDigit hc (by decide)⟩

theorem inert_reference {r : ClassRegistry} {raw name : String} {s : Specifier}
    (hnames : ∀ t, r.table? = some t → t.Named Inert)
    (h : resolve r raw (Naming.variableStem name) = .ok s) : Inert s.reference := by
  obtain ⟨t, ht, -, hroot, -, hstem, hl⟩ := resolve_ok_iff.1 h
  refine Specifier.reference_of_named inert_ofWhole inert_every ?_
    (hl.named (hnames t ht) (ClassTable.named?_of_lookup? hroot))
  rw [Specifier.current, hstem]
  exact inert_variableName name _

/-! ## Arguments -/

/-- The names that the line of a call can have. -/
def Command.names (c : Command) : List String := c.name :: c.parameters.map (·.name)

namespace Call

variable {r : ClassRegistry} {values : OrderedMap String String} {command raw : String}
  {p : Parameter} {ps : List Parameter} {a : Argument} {args : List (Parameter × Argument)}

/-- The literal of a parameter that takes a constant, if it has a value that can be written as it
stands. -/
def constant? (values : OrderedMap String String) (p : Parameter) : Option String :=
  if p.kind = .constant then (values.get? p.name).bind bareLiteral? else none

/-- The literals of the constants among the values of a call. -/
def constants (values : OrderedMap String String) (ps : List Parameter) : List String :=
  ps.filterMap (constant? values)

/-- What is no constant closes its strings and begins no comment. -/
theorem argument_uncommented (hnames : ∀ t, r.table? = some t → t.Named Inert)
    (hk : p.kind ≠ .constant) (h : argument r p raw = .ok a) :
    Closed a.literal ∧ Uncommented a.literal := by
  cases hkind : p.kind with
  | constant => exact absurd hkind hk
  | specifier =>
    obtain ⟨s, hs, rfl⟩ := (argument_specifier_ok_iff hkind).1 h
    have hinert := inert_reference hnames hs
    exact ⟨hinert.closed, hinert.uncommented⟩
  | boolean =>
    simp only [argument, hkind, Except.ok.injEq] at h
    subst h
    show Closed (boolLiteral raw) ∧ Uncommented (boolLiteral raw)
    unfold boolLiteral
    split <;> decide +kernel
  | text =>
    simp only [argument, hkind, Except.ok.injEq] at h
    subst h
    exact ⟨closed_textLiteral raw, uncommented_textLiteral raw⟩
  | number =>
    simp only [argument, hkind] at h
    split at h
    · rename_i n hn
      cases h
      have hinert := inert_of_numberLiteral? hn
      exact ⟨hinert.closed, hinert.uncommented⟩
    · cases h

theorem mem_constants_iff (h : arguments r command values ps = .ok args) {x : String} :
    x ∈ constants values ps ↔ ∃ pa ∈ args, pa.1.kind = .constant ∧ pa.2.literal = x := by
  induction ps generalizing args with
  | nil => cases h; simp [constants]
  | cons p ps ih =>
    rcases arguments_cons_ok_iff.1 h with ⟨hnone, -, hrest⟩ | ⟨raw, a, more, hraw, ha, hmore, rfl⟩
    · have hskip : constant? values p = none := by simp [constant?, hnone]
      rw [constants, List.filterMap_cons_none hskip, ← constants, ih hrest]
    · rw [List.exists_mem_cons_iff, ← ih hmore]
      by_cases hk : p.kind = .constant
      · have htake : constant? values p = some a.literal := by
          obtain ⟨name, kind, optional⟩ := p
          obtain rfl : kind = .constant := hk
          obtain ⟨lit, hlit, rfl⟩ := argument_constant_ok_iff.1 ha
          simp [constant?, hraw, hlit]
        rw [constants, List.filterMap_cons_some htake, ← constants, List.mem_cons]
        simp [hk, eq_comm]
      · have hskip : constant? values p = none := by simp [constant?, hk]
        rw [constants, List.filterMap_cons_none hskip, ← constants]
        simp [hk]

/-- The words for an argument are its literal and perhaps the name of its parameter. -/
theorem mem_words {pa : Parameter × Argument} {w : String} (h : w ∈ words pa) :
    w = pa.1.name ∨ w = pa.2.literal := by
  unfold words at h
  split at h
  · exact .inr (List.mem_singleton.1 h)
  · simpa using h

theorem literal_mem_words (pa : Parameter × Argument) : pa.2.literal ∈ words pa := by
  unfold words
  split <;> simp

/-- What holds of all names, and of all literals but those of constants, holds of all words when it
holds of the constants. -/
theorem forall_words_iff {Q : String → Prop}
    (h : arguments r command values ps = .ok args) (hcommand : Q command)
    (hnames : ∀ p ∈ ps, Q p.name) (hother : ∀ pa ∈ args, pa.1.kind ≠ .constant → Q pa.2.literal) :
    (∀ w ∈ command :: args.flatMap words, Q w) ↔ ∀ x ∈ constants values ps, Q x := by
  constructor
  · intro hwords x hx
    obtain ⟨pa, hpa, -, rfl⟩ := (mem_constants_iff h).1 hx
    have hmem := List.mem_flatMap.2 ⟨pa, hpa, literal_mem_words pa⟩
    exact hwords _ (List.mem_cons_of_mem _ hmem)
  · intro hconstants w hw
    rcases List.mem_cons.1 hw with rfl | hw
    · exact hcommand
    obtain ⟨pa, hpa, hw⟩ := List.mem_flatMap.1 hw
    rcases mem_words hw with rfl | rfl
    · exact hnames _ (arguments_mem h hpa).1
    · by_cases hk : pa.1.kind = .constant
      · exact hconstants _ ((mem_constants_iff h).2 ⟨pa, hpa, hk, rfl⟩)
      · exact hother pa hpa hk

end Call

/-! ## Calls -/

section

variable {classes : ClassRegistry} {commands : CommandRegistry} {name : String}
  {values : OrderedMap String String} {c : Call}

/-- The line of a call is made of its arguments. -/
theorem exists_line_of_call (h : call classes commands name values = .ok c) :
    ∃ args, Call.arguments classes c.command.name values c.command.parameters = .ok args ∧
      c.line = Text.joinWith " " (c.command.name :: args.flatMap Call.words) := by
  obtain ⟨command, args, -, hargs, rfl⟩ := call_eq_ok_iff.1 h
  exact ⟨args, hargs, rfl⟩

/-- **Where a call is cut off**: two hyphens take nothing out of a call exactly when they begin no
comment in its words, each read where the words before it leave off. With inert names, and constants
that close their strings, the constants decide; the other values are written so that no comment
begins in them. -/
theorem call_uncommented_iff (h : call classes commands name values = .ok c) :
    (Uncommented c.line ↔ executed c.line = c.line) ∧
    (∃ args, Call.arguments classes c.command.name values c.command.parameters = .ok args ∧
      (Uncommented c.line ↔
        WordsUncommented .code (c.command.name :: args.flatMap Call.words))) ∧
    ((∀ t, classes.table? = some t → t.Named Inert) → (∀ x ∈ c.command.names, Inert x) →
      (∀ x ∈ Call.constants values c.command.parameters, Closed x) →
      (Uncommented c.line ↔
        ∀ x ∈ Call.constants values c.command.parameters, Uncommented x)) := by
  obtain ⟨args, hargs, hline⟩ := exists_line_of_call h
  have hwords : Uncommented c.line ↔
      WordsUncommented .code (c.command.name :: args.flatMap Call.words) := by
    rw [hline, uncommented_joinWith_iff]
  refine ⟨executed_eq_self_iff.symm, ⟨args, hargs, hwords⟩, fun hclasses hnames hclosed => ?_⟩
  obtain ⟨hcommand, hparameters⟩ := List.forall_mem_cons.1 hnames
  have hparameter : ∀ p ∈ c.command.parameters, Inert p.name :=
    fun p hp => hparameters _ (List.mem_map_of_mem hp)
  have hother : ∀ pa ∈ args, pa.1.kind ≠ .constant →
      Closed pa.2.literal ∧ Uncommented pa.2.literal := by
    intro pa hpa hk
    obtain ⟨-, raw, -, ha⟩ := Call.arguments_mem hargs hpa
    exact Call.argument_uncommented hclasses hk ha
  have hall : ∀ w ∈ c.command.name :: args.flatMap Call.words, Closed w :=
    (Call.forall_words_iff hargs hcommand.closed (fun p hp => (hparameter p hp).closed)
      fun pa hpa hk => (hother pa hpa hk).1).2 hclosed
  rw [hwords, wordsUncommented_iff hall]
  exact Call.forall_words_iff hargs hcommand.uncommented
    (fun p hp => (hparameter p hp).uncommented) fun pa hpa hk => (hother pa hpa hk).2

end

/-- A command that takes a class name, a text, a number and a record. -/
def makeCommands : List CommandDecl := [
  ⟨"make", [⟨"new", "type", false⟩, ⟨"comment", "text", true⟩, ⟨"rating", "integer", true⟩,
    ⟨"with properties", "record", true⟩]⟩]

def hyphenatedValues : OrderedMap String String :=
  .ofList [("new", "playlist"), ("comment", "one \"-- two"), ("rating", "-1"),
    ("with properties", "\x7bname:\"-- mix\"\x7d")]

theorem shelf_named_inert {r : ClassRegistry} {t : ClassTable}
    (hr : ClassRegistry.empty.load shelf [] = .ok r) (ht : r.table? = some t) : t.Named Inert := by
  have hshelf : ((ClassRegistry.empty.load shelf []).toOption.bind (·.table?)).all
      (fun t => decide (t.Named Inert)) = true := by decide +kernel
  rw [Outcome.toOption_eq_some.2 hr, Option.bind_some, ht, Option.all_some] at hshelf
  exact of_decide_eq_true hshelf

/-- Hyphens in a text and in a string of a record. -/
theorem call_uncommented_make :
    ∃ r k c, ClassRegistry.empty.load shelf [] = .ok r ∧
      CommandRegistry.empty.load makeCommands (shelf.map (·.name)) = .ok k ∧
      call r k "make" hyphenatedValues = .ok c ∧
      c.line = "make new playlist comment \"one \\\"-- two\" rating -1 " ++
        "with properties \x7bname:\"-- mix\"\x7d" ∧
      executed c.line = c.line := by
  obtain ⟨r, k, c, hr, hk, hc, hP⟩ := exists_called shelf makeCommands "make"
    hyphenatedValues
    (fun c => decide (c.line = "make new playlist comment \"one \\\"-- two\" rating -1 " ++
        "with properties \x7bname:\"-- mix\"\x7d" ∧
      (∀ x ∈ c.command.names, Inert x) ∧
      ∀ x ∈ Call.constants hyphenatedValues c.command.parameters, Closed x ∧ Uncommented x))
    (by decide +kernel)
  obtain ⟨hline, hnames, hconstants⟩ := of_decide_eq_true hP
  obtain ⟨hexecuted, -, hiff⟩ := call_uncommented_iff hc
  refine ⟨r, k, c, hr, hk, hc, hline, hexecuted.1 ((hiff ?_ hnames ?_).2 ?_)⟩
  · exact fun t ht => shelf_named_inert hr ht
  · exact fun x hx => (hconstants x hx).1
  · exact fun x hx => (hconstants x hx).2

/-- Hyphens behind a class name cut off the properties of what is made. -/
theorem call_make_commented :
    ∃ r k c, ClassRegistry.empty.load shelf [] = .ok r ∧
      CommandRegistry.empty.load makeCommands (shelf.map (·.name)) = .ok k ∧
      call r k "make" (.ofList [("new", "playlist --"),
        ("with properties", "\x7bname:\"Mix\"\x7d")]) = .ok c ∧
      c.line = "make new playlist -- with properties \x7bname:\"Mix\"\x7d" ∧
      (∀ t, r.table? = some t → t.Named Inert) ∧ (∀ x ∈ c.command.names, Inert x) ∧
      ¬ Uncommented c.line ∧ executed c.line = "make new playlist " := by
  obtain ⟨r, k, c, hr, hk, hc, hP⟩ := exists_called shelf makeCommands "make"
    (.ofList [("new", "playlist --"), ("with properties", "\x7bname:\"Mix\"\x7d")])
    (fun c => decide (c.line = "make new playlist -- with properties \x7bname:\"Mix\"\x7d" ∧
      ∀ x ∈ c.command.names, Inert x)) (by decide +kernel)
  obtain ⟨hline, hnames⟩ := of_decide_eq_true hP
  refine ⟨r, k, c, hr, hk, hc, hline, fun t ht => shelf_named_inert hr ht, hnames, ?_, ?_⟩
  · rw [hline]
    decide +kernel
  · rw [hline]
    decide +kernel

end ScriptGateway
