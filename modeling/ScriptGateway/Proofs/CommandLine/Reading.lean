import Mathlib.Data.List.Basic
import ScriptGateway.CommandLine.Run

/-!
# Command lines of previews

A command line of `compile` that is put together from options before and after its target
(`previewLine`) is read as just these (`read_previewLine`): the target is the only operand, and the
options keep their order.
-/

set_option autoImplicit false

namespace ScriptGateway.CommandLine

/-! ## Options -/

/-- An option of a preview. -/
inductive Choice
  | definition (file : String)
  /-- A parameter of a call, or a word without an equals sign, which is none. -/
  | parameter (name : String) (value : Option String)
  | command
  deriving DecidableEq, Repr

namespace Choice

def parameterWord (name : String) : Option String → String
  | some value => name ++ "=" ++ value
  | none => name

/-- The option as it stands in a command line. -/
def words : Choice → List String
  | definition file => ["--sdef", file]
  | parameter name value => ["-p", parameterWord name value]
  | command => ["--command"]

/-- The option as it is read. -/
def given : Choice → Given
  | definition file => ⟨"--sdef", file⟩
  | parameter name value => ⟨"--param", parameterWord name value⟩
  | command => ⟨"--command", ""⟩

/-- The name and value that an option gives to a call. -/
def pair? : Choice → Option (String × String)
  | parameter name (some value) => some (name, value)
  | _ => none

/-- A name ends at the first equals sign. -/
def IsNamed : Choice → Prop
  | parameter name _ => '=' ∉ name.toList
  | _ => True

theorem option_given_ne (c : Choice) {option : String}
    (h : option ∉ ["--sdef", "--param", "--command"]) : c.given.option ≠ option := by
  rintro rfl
  apply h
  cases c with
  | definition file => exact List.mem_cons_self
  | parameter name value => exact List.mem_cons_of_mem _ List.mem_cons_self
  | command => exact List.mem_cons_of_mem _ (List.mem_cons_of_mem _ List.mem_cons_self)

end Choice

/-- The words with the given options and one operand. -/
def previewWords (choices : List Choice) (target : String) : Words :=
  ⟨choices.map Choice.given, [target]⟩

/-- A command line that asks for a preview of a target, with options on both sides of it. -/
def previewLine (before : List Choice) (target : String) (after : List Choice) : List String :=
  "compile" :: (before.flatMap Choice.words ++ target :: after.flatMap Choice.words)

/-! ## Reading -/

theorem spell?_eq_none {word : String} (h : word.toList.head? ≠ some '-') (switches : List Switch) :
    spell? switches word = none := by
  unfold spell?
  split
  · rename_i hword
    exact absurd (by rw [hword]; rfl) h
  · rename_i hword
    exact absurd (by rw [hword]; rfl) h
  · rfl

theorem readWords_operand {word : String} (h : word.toList.head? ≠ some '-')
    (switches : List Switch) (rest : List String) :
    readWords switches true (word :: rest) =
      (readWords switches true rest).map (·.withOperand word) := by
  have hmark : word ≠ String.ofList optionMark := by
    rintro rfl
    exact h rfl
  rw [readWords, if_neg hmark, spell?_eq_none h]
  rfl

theorem readWords_choice (c : Choice) (rest : List String) :
    readWords Scope.compile.switches true (c.words ++ rest) =
      (readWords Scope.compile.switches true rest).map (·.withOptions [c.given]) := by
  cases c with
  | definition file => rfl
  | parameter name value => rfl
  | command => rfl

theorem readWords_choices (choices : List Choice) (rest : List String) :
    readWords Scope.compile.switches true (choices.flatMap Choice.words ++ rest) =
      (readWords Scope.compile.switches true rest).map
        (·.withOptions (choices.map Choice.given)) := by
  induction choices with
  | nil =>
    rw [List.flatMap_nil, List.nil_append]
    cases readWords Scope.compile.switches true rest with
    | ok w => rfl
    | error m => rfl
  | cons c choices ih =>
    rw [List.flatMap_cons, List.append_assoc, readWords_choice, ih]
    cases readWords Scope.compile.switches true rest with
    | ok w => rfl
    | error m => rfl

/-- Nothing else is given than what was chosen. -/
theorem has_previewWords (choices : List Choice) (target : String) {option : String}
    (h : option ∉ ["--sdef", "--param", "--command"]) :
    (previewWords choices target).has option = false := by
  have hnone : (previewWords choices target).options.filter (·.option = option) = [] := by
    rw [List.filter_eq_nil_iff]
    intro g hg
    obtain ⟨c, -, rfl⟩ := List.mem_map.1 hg
    simpa using c.option_given_ne h
  simp [Words.has, Words.last?, hnone]

theorem read_previewLine {target : String} (h : target.toList.head? ≠ some '-')
    (before after : List Choice) :
    Invocation.read (previewLine before target after) =
      .ok (.command .compile (previewWords (before ++ after) target)) := by
  have hread : Scope.compile.read
      (before.flatMap Choice.words ++ target :: after.flatMap Choice.words) =
        .ok (previewWords (before ++ after) target) := by
    have hafter := readWords_choices after []
    rw [List.append_nil] at hafter
    show readWords Scope.compile.switches true _ = _
    rw [readWords_choices, readWords_operand h, hafter]
    simp [readWords, Except.map, Words.none, Words.withOptions, Words.withOperand, previewWords]
  have hhelp : (previewWords (before ++ after) target).has Scope.help.name = false :=
    has_previewWords _ _ (by decide)
  have hprogram : Scope.program.read (previewLine before target after) =
      .ok ⟨[], previewLine before target after⟩ := rfl
  have hnamed : Scope.named? "compile" = some .compile := rfl
  have hpick : Invocation.pick (previewLine before target after) =
      .ok (.command .compile (previewWords (before ++ after) target)) := by
    simp only [previewLine, Invocation.pick, hnamed, hread, hhelp, Bool.false_eq_true, if_false]
  rw [Invocation.read, hprogram]
  exact (if_neg Bool.false_ne_true).trans hpick

/-! ## What the options come to -/

theorem has_command_iff (choices : List Choice) (target : String) :
    (previewWords choices target).has "--command" = true ↔ Choice.command ∈ choices := by
  have hgiven (c : Choice) : c.given.option = "--command" ↔ c = .command := by
    cases c with
    | definition file => exact iff_of_false (by decide : "--sdef" ≠ "--command") nofun
    | parameter name value => exact iff_of_false (by decide : "--param" ≠ "--command") nofun
    | command => exact iff_of_true rfl rfl
  rw [Words.has, Words.last?, Option.isSome_map, List.getLast?_isSome]
  simp [previewWords, hgiven]

theorem takeWhile_name {name : String} (h : '=' ∉ name.toList) (more : List Char) :
    (name.toList ++ more).takeWhile (· ≠ '=') = name.toList ++ more.takeWhile (· ≠ '=') ∧
      (name.toList ++ more).dropWhile (· ≠ '=') = more.dropWhile (· ≠ '=') := by
  have hne : ∀ c ∈ name.toList, decide (c ≠ '=') = true := by
    intro c hc
    rw [decide_eq_true_eq]
    rintro rfl
    exact h hc
  exact ⟨List.takeWhile_append_of_pos hne, List.dropWhile_append_of_pos hne⟩

/-- The parameters of a call are the pairs that were chosen. -/
theorem parameters_previewWords {choices : List Choice} (h : ∀ c ∈ choices, c.IsNamed)
    (target : String) :
    parameters (previewWords choices target) = .ofList (choices.filterMap Choice.pair?) := by
  rw [parameters, previewWords, List.filterMap_filter, List.filterMap_map]
  congr 1
  refine List.filterMap_congr fun c hc => ?_
  -- the word is cut at its first equals sign, which is not one of the name's own
  have hname := h c hc
  cases c with
  | definition file => rfl
  | command => rfl
  | parameter name value =>
    cases value with
    | none =>
      obtain ⟨-, hdrop⟩ := takeWhile_name hname []
      rw [List.append_nil] at hdrop
      simp only [Function.comp_apply, Choice.given, Choice.parameterWord, Choice.pair?,
        decide_true, if_true, hdrop, List.dropWhile_nil]
    | some value =>
      obtain ⟨htake, hdrop⟩ := takeWhile_name hname ('=' :: value.toList)
      have hword : (name ++ "=" ++ value).toList = name.toList ++ '=' :: value.toList := by simp
      have hstop : ¬decide ('=' ≠ '=') = true := by simp
      rw [List.takeWhile_cons_of_neg (p := fun c => decide (c ≠ '=')) hstop,
        List.append_nil] at htake
      rw [List.dropWhile_cons_of_neg (p := fun c => decide (c ≠ '=')) hstop] at hdrop
      simp only [Function.comp_apply, Choice.given, Choice.parameterWord, Choice.pair?,
        decide_true, if_true, hword, htake, hdrop, String.ofList_toList]

end ScriptGateway.CommandLine
