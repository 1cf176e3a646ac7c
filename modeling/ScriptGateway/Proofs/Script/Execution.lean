import Mathlib.Data.List.TakeWhile
import ScriptGateway.OrderedMap
import ScriptGateway.Script.Program
import ScriptGateway.Text.Blank

/-!
# What bindings mean

Two readings of the bindings of a script, both on the texts it is made of:

* `writtenOut?` replaces the variable at the end of a text by the expression bound to it, going up
  from the last binding; no other variable may stand there.
* `run?` executes lines from top to bottom. A line assigns the value of its expression, in which the
  last word is read as a variable if it is one (`evaluate`).

Lines read back as the bindings they were written from when variables are single words
(`bindings?_lines`).
-/

set_option autoImplicit false

namespace ScriptGateway.Script

/-! ## Writing out -/

/-- The text with the variable of the binding, which has to stand at its end, replaced. -/
def Binding.unfold? (b : Binding) (text : String) : Option String :=
  if b.name.toList.isSuffixOf text.toList then
    some (String.ofList (text.toList.take (text.length - b.name.length)) ++ b.expression)
  else none

def writtenOut? (bs : List Binding) (text : String) : Option String :=
  bs.foldrM Binding.unfold? text

theorem Binding.unfold?_append (b : Binding) (front : String) :
    b.unfold? (front ++ b.name) = some (front ++ b.expression) := by
  unfold Binding.unfold?
  have hsuffix : b.name.toList.isSuffixOf (front ++ b.name).toList = true := by
    rw [List.isSuffixOf_iff_suffix, String.toList_append]
    exact List.suffix_append _ _
  have hlen : (front ++ b.name).length - b.name.length = front.toList.length := by
    rw [String.length_append, Nat.add_sub_cancel, String.length_toList]
  rw [if_pos hsuffix, hlen, String.toList_append, List.take_left, String.ofList_toList]

theorem writtenOut?_append (bs : List Binding) (b : Binding) (front : String) :
    writtenOut? (bs ++ [b]) (front ++ b.name) = writtenOut? bs (front ++ b.expression) := by
  simp [writtenOut?, List.foldrM_append, Binding.unfold?_append]

/-! ## Executing -/

/-- The values of the variables. -/
abbrev Values := OrderedMap String String

def inWord (c : Char) : Bool := c != ' '

/-- A text without spaces. -/
def IsWord (s : String) : Prop := ∀ c ∈ s.toList, inWord c = true

/-- A text parted before its last word. -/
def splitLastWord (cs : List Char) : List Char × List Char :=
  (Text.dropEndWhile inWord cs, (cs.reverse.takeWhile inWord).reverse)

/-- The value of an expression: its last word gives way to the value of the variable of that name;
a word that is no variable stands for itself. -/
def evaluate (σ : Values) (expression : String) : String :=
  let (front, word) := splitLastWord expression.toList
  String.ofList front ++ (σ.get? (String.ofList word)).getD (String.ofList word)

def Binding.run (σ : Values) (b : Binding) : Values := σ.insert b.name (evaluate σ b.expression)

def runAll (σ : Values) (bs : List Binding) : Values := bs.foldl Binding.run σ

/-- The binding that a line makes: `set variable to expression`. -/
def Binding.ofLine? (line : String) : Option Binding :=
  match line.toList with
  | 's' :: 'e' :: 't' :: ' ' :: rest =>
    match rest.dropWhile inWord with
    | ' ' :: 't' :: 'o' :: ' ' :: expression =>
      some ⟨String.ofList (rest.takeWhile inWord), String.ofList expression⟩
    | _ => none
  | _ => none

/-- The bindings that the lines make, if each of them makes one. -/
def bindings? (lines : List String) : Option (List Binding) := lines.mapM Binding.ofLine?

/-- The values of the variables after the lines, which are executed from top to bottom. -/
def run? (lines : List String) : Option Values := (bindings? lines).map (runAll .empty)

/-- The variables that the lines assign, each as often as it is assigned. -/
def assigned (lines : List String) : List String :=
  lines.filterMap fun l => (Binding.ofLine? l).map (·.name)

theorem runAll_append (σ : Values) (bs cs : List Binding) :
    runAll σ (bs ++ cs) = runAll (runAll σ bs) cs := List.foldl_append

theorem get?_run (σ : Values) (b : Binding) (v : String) :
    (b.run σ).get? v = if b.name = v then some (evaluate σ b.expression) else σ.get? v :=
  OrderedMap.get?_insert σ b.name v (evaluate σ b.expression)

/-- A variable that is not assigned keeps its value. -/
theorem runAll_frame {σ : Values} {bs : List Binding} {v : String} (h : v ∉ bs.map (·.name)) :
    (runAll σ bs).get? v = σ.get? v := by
  induction bs generalizing σ with
  | nil => rfl
  | cons b bs ih =>
    rw [List.map_cons, List.mem_cons, not_or] at h
    have hcons : runAll σ (b :: bs) = runAll (b.run σ) bs := rfl
    rw [hcons, ih h.2, get?_run, if_neg (Ne.symm h.1)]

/-! ## Words -/

theorem isWord_of_all {s : String} (h : s.toList.all inWord = true) : IsWord s :=
  List.all_eq_true.1 h

theorem splitLastWord_word {w : List Char} (hw : ∀ c ∈ w, inWord c = true) :
    splitLastWord w = ([], w) := by
  have hrev : ∀ c ∈ w.reverse, inWord c = true := by simpa using hw
  have htake := List.takeWhile_eq_self_iff.2 hrev
  have hdrop := List.dropWhile_eq_nil_iff.2 hrev
  simp [splitLastWord, Text.dropEndWhile, htake, hdrop]

theorem splitLastWord_append {w : List Char} (front : List Char)
    (hw : ∀ c ∈ w, inWord c = true) :
    splitLastWord (front ++ ' ' :: w) = (front ++ [' '], w) := by
  have hrev : ∀ c ∈ w.reverse, inWord c = true := by simpa using hw
  have hsplit : (front ++ ' ' :: w).reverse = w.reverse ++ ' ' :: front.reverse := by simp
  have hspace : inWord ' ' = false := rfl
  simp only [splitLastWord, Text.dropEndWhile, hsplit, List.takeWhile_append_of_pos hrev,
    List.dropWhile_append_of_pos hrev]
  simp [hspace]

theorem evaluate_word {σ : Values} {v : String} (hv : IsWord v) :
    evaluate σ v = (σ.get? v).getD v := by
  simp [evaluate, splitLastWord_word hv]

theorem evaluate_append {σ : Values} {v : String} (front : String) (hv : IsWord v) :
    evaluate σ (front ++ " " ++ v) = front ++ " " ++ (σ.get? v).getD v := by
  have hl : (front ++ " " ++ v).toList = front.toList ++ ' ' :: v.toList := by simp
  simp [evaluate, hl, splitLastWord_append front.toList hv, String.ofList_append]

theorem Binding.ofLine?_line {b : Binding} (h : IsWord b.name) : ofLine? b.line = some b := by
  have hl : b.line.toList =
      's' :: 'e' :: 't' :: ' ' ::
        (b.name.toList ++ ' ' :: 't' :: 'o' :: ' ' :: b.expression.toList) := by
    simp [Binding.line, assign]
  have hspace : inWord ' ' = false := rfl
  simp [ofLine?, hl, hspace, List.takeWhile_append_of_pos h, List.dropWhile_append_of_pos h]

theorem bindings?_lines {bs : List Binding} (h : ∀ b ∈ bs, IsWord b.name) :
    bindings? (bs.map (·.line)) = some bs := by
  induction bs with
  | nil => rfl
  | cons b bs ih =>
    obtain ⟨hb, hbs⟩ := List.forall_mem_cons.1 h
    have hrest : List.mapM Binding.ofLine? (bs.map (·.line)) = some bs := ih hbs
    simp [bindings?, Binding.ofLine?_line hb, hrest]

theorem run?_lines {bs : List Binding} (h : ∀ b ∈ bs, IsWord b.name) :
    run? (bs.map (·.line)) = some (runAll .empty bs) := by
  rw [run?, bindings?_lines h, Option.map_some]

theorem assigned_lines {bs : List Binding} (h : ∀ b ∈ bs, IsWord b.name) :
    assigned (bs.map (·.line)) = bs.map (·.name) := by
  induction bs with
  | nil => rfl
  | cons b bs ih =>
    obtain ⟨hb, hbs⟩ := List.forall_mem_cons.1 h
    have hrest : assigned (bs.map (·.line)) = bs.map (·.name) := ih hbs
    simp only [assigned] at hrest
    simp [assigned, Binding.ofLine?_line hb, hrest]

end ScriptGateway.Script
