import Mathlib.Data.List.DropRight
import ScriptGateway.Proofs.Payload.Tokens

/-!
# Reading JSON texts

The reader accepts every JSON text and gives the payload that it stands for (`ofJson?_of_text`), so
no text stands for two payloads (`Text.unique`). Its fuel runs out on none: a step either goes into
a bracket or passes a comma, so the fuel it needs is bounded by the length of what it reads.
-/

set_option autoImplicit false

namespace ScriptGateway.Json

open Text Payload

/-! ## Gaps -/

theorem skipSpace_gap {gap : List Char} (h : Gap gap) (cs : List Char) :
    skipSpace (gap ++ cs) = skipSpace cs :=
  List.dropWhile_append_of_pos h

theorem skipSpace_cons {c : Char} (h : isGap c = false) (cs : List Char) :
    skipSpace (c :: cs) = c :: cs :=
  List.dropWhile_cons_of_neg (by simpa [isGap] using h)

theorem skipSpace_skipSpace (cs : List Char) : skipSpace (skipSpace cs) = skipSpace cs :=
  List.dropWhile_idempotent ..

theorem Ends.gap {gap rest : List Char} (hgap : Gap gap) (h : Ends rest) : Ends (gap ++ rest) := by
  cases gap with
  | nil => exact h
  | cons c cs =>
    have hc := hgap c (List.mem_cons_self ..)
    simp only [isGap, Bool.or_eq_true, decide_eq_true_eq] at hc
    rcases hc with ((rfl | rfl) | rfl) | rfl <;> exact ends_cons rfl _

theorem readValue?_skipSpace (fuel : Nat) (cs : List Char) :
    readValue? fuel (skipSpace cs) = readValue? fuel cs := by
  cases fuel with
  | zero => rfl
  | succ fuel => rw [readValue?, readValue?, skipSpace_skipSpace]

theorem readItems?_skipSpace (fuel : Nat) (cs : List Char) :
    readItems? fuel (skipSpace cs) = readItems? fuel cs := by
  cases fuel with
  | zero => rfl
  | succ fuel => rw [readItems?, readItems?, readValue?_skipSpace]

theorem readFields?_skipSpace (fuel : Nat) (before : List (String × Payload)) (cs : List Char) :
    readFields? fuel before (skipSpace cs) = readFields? fuel before cs := by
  cases fuel with
  | zero => rfl
  | succ fuel => rw [readFields?, readFields?, skipSpace_skipSpace]

theorem readValue?_gap {gap : List Char} (h : Gap gap) (fuel : Nat) (cs : List Char) :
    readValue? fuel (gap ++ cs) = readValue? fuel cs := by
  rw [← readValue?_skipSpace, skipSpace_gap h, readValue?_skipSpace]

/-! ## First characters -/

/-- What a number begins with. -/
def startsNumber (c : Char) : Bool := isAsciiDigit c || c = '-'

theorem ne_of_startsNumber {c d : Char} (hc : startsNumber c = true)
    (hd : startsNumber d = false) : c ≠ d := by
  rintro rfl
  exact absurd hc (by simp [hd])

theorem isGap_of_startsNumber {c : Char} (h : startsNumber c = true) : isGap c = false := by
  simp [isGap, ne_of_startsNumber h (d := ' ') rfl, ne_of_startsNumber h (d := '\t') rfl,
    ne_of_startsNumber h (d := '\n') rfl, ne_of_startsNumber h (d := '\r') rfl]

theorem Number.head {cs : List Char} {p : Payload} (h : Number cs p) :
    ∃ c ds, cs = c :: ds ∧ startsNumber c = true := by
  have hhead : ∀ {negative digits} more, Whole digits →
      ∃ c ds, minus negative ++ (digits ++ more) = c :: ds ∧ startsNumber c = true := by
    intro negative digits more h
    cases negative with
    | true => exact ⟨'-', _, rfl, rfl⟩
    | false =>
      obtain ⟨c, ds, rfl⟩ := List.exists_cons_of_ne_nil h.digits.1
      exact ⟨c, _, rfl, by simp [startsNumber, h.digits.2 c (List.mem_cons_self ..)]⟩
  cases h with
  | whole h => simpa using hhead [] h
  | decimal h _ _ _ => exact hhead _ h

/-- A value begins with what is neither a gap nor the end of a list. -/
theorem Value.head {cs : List Char} {p : Payload} (h : Value cs p) :
    ∃ c ds, cs = c :: ds ∧ isGap c = false ∧ c ≠ ']' := by
  cases h with
  | null => exact ⟨_, _, rfl, rfl, by decide⟩
  | bool b => cases b <;> exact ⟨_, _, rfl, rfl, by decide⟩
  | number h =>
    obtain ⟨c, ds, rfl, hc⟩ := h.head
    exact ⟨c, ds, rfl, isGap_of_startsNumber hc, ne_of_startsNumber hc rfl⟩
  | text h => obtain ⟨_⟩ := h; exact ⟨_, _, rfl, rfl, by decide⟩
  | emptyList => exact ⟨_, _, rfl, rfl, by decide⟩
  | list => exact ⟨_, _, rfl, rfl, by decide⟩
  | emptyObject => exact ⟨_, _, rfl, rfl, by decide⟩
  | object => exact ⟨_, _, rfl, rfl, by decide⟩

theorem Value.length_pos {cs : List Char} {p : Payload} (h : Value cs p) : 0 < cs.length := by
  obtain ⟨c, ds, rfl, -⟩ := h.head
  simp

theorem Spaced.head {cs : List Char} {p : Payload} (h : Spaced cs p) (rest : List Char) :
    (skipSpace (cs ++ rest)).head? ≠ some ']' := by
  obtain ⟨hlead, hvalue, -⟩ := h
  obtain ⟨c, ds, rfl, hgap, hc⟩ := hvalue.head
  simp only [List.append_assoc, skipSpace_gap hlead, List.cons_append, skipSpace_cons hgap]
  simpa using hc

theorem Items.head {cs : List Char} {items : List Payload} (h : Items cs items)
    (rest : List Char) : (skipSpace (cs ++ rest)).head? ≠ some ']' := by
  cases h with
  | one h => exact h.head rest
  | more h _ => rw [List.append_assoc]; exact h.head _

theorem skipSpace_name {name : List Char} {k : String} (h : Name name k) (cs : List Char) :
    ∃ more trail, skipSpace (name ++ ':' :: cs) = '"' :: more ∧
      readString? more = some (k.toList, trail) ∧ skipSpace trail = ':' :: cs := by
  obtain ⟨hlead, ⟨hchars⟩, htrail⟩ := h
  simp only [List.append_assoc, List.cons_append, List.nil_append]
  rw [skipSpace_gap hlead, skipSpace_cons rfl]
  exact ⟨_, _, rfl, readString?_chars hchars _, by rw [skipSpace_gap htrail, skipSpace_cons rfl]⟩

theorem Fields.head {cs : List Char} {fields : List (String × Payload)} (h : Fields cs fields)
    (rest : List Char) : (skipSpace (cs ++ rest)).head? ≠ some '}' := by
  have hname : ∀ {name k} cs, Name name k →
      (skipSpace (name ++ ':' :: cs)).head? ≠ some '}' := by
    intro name k cs h
    obtain ⟨_, _, hquote, -⟩ := skipSpace_name h cs
    simp [hquote]
  cases h with
  | one h _ => rw [List.append_assoc, List.cons_append]; exact hname _ h
  | more h _ _ => rw [List.append_assoc, List.cons_append]; exact hname _ h

/-! ## One step of the reader -/

section
variable (fuel : Nat) {cs rest more : List Char} {p : Payload}

theorem readValue?_text (cs : List Char) :
    readValue? (fuel + 1) ('"' :: cs) =
      (readString? cs).map fun p => (text (String.ofList p.1), p.2) := by
  rw [readValue?, skipSpace_cons rfl]
  rfl

theorem readValue?_digits {c : Char} (h : startsNumber c = true) (cs : List Char) :
    readValue? (fuel + 1) (c :: cs) = readNumber? (c :: cs) := by
  have hne : ∀ d, startsNumber d = false → c ≠ d := fun d => ne_of_startsNumber h
  rw [readValue?, skipSpace_cons (isGap_of_startsNumber h)]
  simp [hne '"' rfl, hne '[' rfl, hne '{' rfl, hne 'n' rfl, hne 't' rfl, hne 'f' rfl]

theorem readValue?_emptyList (h : skipSpace cs = ']' :: rest) :
    readValue? (fuel + 1) ('[' :: cs) = some (list [], rest) := by
  rw [readValue?, skipSpace_cons rfl]
  simp [h]

theorem readValue?_list (h : (skipSpace cs).head? ≠ some ']') :
    readValue? (fuel + 1) ('[' :: cs) = (readItems? fuel cs).map fun p => (list p.1, p.2) := by
  rw [readValue?, skipSpace_cons rfl, ← readItems?_skipSpace]
  simp only
  split
  · simp_all
  · rfl

theorem readValue?_emptyObject (h : skipSpace cs = '}' :: rest) :
    readValue? (fuel + 1) ('{' :: cs) = some (object [], rest) := by
  rw [readValue?, skipSpace_cons rfl]
  simp [h]

theorem readValue?_object (h : (skipSpace cs).head? ≠ some '}') :
    readValue? (fuel + 1) ('{' :: cs) =
      (readFields? fuel [] cs).map fun p => (object p.1, p.2) := by
  rw [readValue?, skipSpace_cons rfl, ← readFields?_skipSpace]
  simp only
  split
  · simp_all
  · rfl

theorem readItems?_last (hp : readValue? fuel cs = some (p, rest))
    (hrest : skipSpace rest = ']' :: more) : readItems? (fuel + 1) cs = some ([p], more) := by
  simp only [readItems?, hp, Option.bind_some, hrest]

theorem readItems?_more (hp : readValue? fuel cs = some (p, rest))
    (hrest : skipSpace rest = ',' :: more) :
    readItems? (fuel + 1) cs = (readItems? fuel more).map fun q => (p :: q.1, q.2) := by
  simp only [readItems?, hp, Option.bind_some, hrest]

variable {name : List Char} {k : String} (before : List (String × Payload))

theorem readFields?_last (h : Name name k) (hp : readValue? fuel cs = some (p, rest))
    (hrest : skipSpace rest = '}' :: more) :
    readFields? (fuel + 1) before (name ++ ':' :: cs) =
      some (OrderedMap.put k p before, more) := by
  obtain ⟨_, _, hquote, hname, hcolon⟩ := skipSpace_name h cs
  simp only [readFields?, hquote, hname, hcolon, Option.bind_some, hp, hrest,
    String.ofList_toList]

theorem readFields?_more (h : Name name k) (hp : readValue? fuel cs = some (p, rest))
    (hrest : skipSpace rest = ',' :: more) :
    readFields? (fuel + 1) before (name ++ ':' :: cs) =
      readFields? fuel (OrderedMap.put k p before) more := by
  obtain ⟨_, _, hquote, hname, hcolon⟩ := skipSpace_name h cs
  simp only [readFields?, hquote, hname, hcolon, Option.bind_some, hp, hrest,
    String.ofList_toList]

end

/-! ## The reader follows the grammar

By induction on the derivations. Each bound on the fuel leaves enough for the parts: there are two
units for every character, and a bracket or a comma needs only those of its own character.
-/

mutual

theorem readValue?_value {cs : List Char} {p : Payload} (h : Value cs p) (fuel : Nat)
    (rest : List Char) (hfuel : 2 * cs.length ≤ fuel) (hrest : Ends rest) :
    readValue? fuel (cs ++ rest) = some (p, rest) := by
  obtain ⟨fuel, rfl⟩ : ∃ n, fuel = n + 1 := Nat.exists_eq_succ_of_ne_zero <| by
    have := h.length_pos
    omega
  match h with
  | .null => rfl
  | .bool b => cases b <;> rfl
  | .number h =>
    have hread := readNumber?_number h hrest
    obtain ⟨c, ds, rfl, hc⟩ := h.head
    rw [List.cons_append] at hread ⊢
    rw [readValue?_digits fuel hc, hread]
  | .text h =>
    obtain ⟨hchars⟩ := h
    simp only [List.append_assoc, List.cons_append, List.nil_append]
    rw [readValue?_text, readString?_chars hchars, Option.map_some, String.ofList_toList]
  | .emptyList h =>
    simp only [List.append_assoc, List.cons_append, List.nil_append]
    exact readValue?_emptyList fuel (by rw [skipSpace_gap h, skipSpace_cons rfl])
  | .list h =>
    simp only [List.length_cons, List.length_append, List.length_nil] at hfuel
    simp only [List.append_assoc, List.cons_append, List.nil_append]
    rw [readValue?_list fuel (h.head _), readItems?_items h fuel rest (by omega)]
    rfl
  | .emptyObject h =>
    simp only [List.append_assoc, List.cons_append, List.nil_append]
    exact readValue?_emptyObject fuel (by rw [skipSpace_gap h, skipSpace_cons rfl])
  | .object h =>
    simp only [List.length_cons, List.length_append, List.length_nil] at hfuel
    simp only [List.append_assoc, List.cons_append, List.nil_append]
    rw [readValue?_object fuel (h.head _), readFields?_fields h fuel [] rest (by omega)]
    rfl

/-- The gap behind the value is left to the caller. -/
theorem readValue?_spaced {cs : List Char} {p : Payload} (h : Spaced cs p) (fuel : Nat)
    (rest : List Char) (hfuel : 2 * cs.length ≤ fuel) (hrest : Ends rest) :
    ∃ trail, readValue? fuel (cs ++ rest) = some (p, trail) ∧ skipSpace trail = skipSpace rest := by
  match h with
  | @Spaced.mk lead cs trail p hlead hvalue htrail =>
    refine ⟨trail ++ rest, ?_, skipSpace_gap htrail rest⟩
    simp only [List.length_append] at hfuel
    rw [List.append_assoc, readValue?_gap hlead, List.append_assoc]
    exact readValue?_value hvalue fuel _ (by omega) (hrest.gap htrail)

theorem readItems?_items {cs : List Char} {items : List Payload} (h : Items cs items) (fuel : Nat)
    (rest : List Char) (hfuel : 2 * cs.length + 1 ≤ fuel) :
    readItems? fuel (cs ++ ']' :: rest) = some (items, rest) := by
  obtain ⟨fuel, rfl⟩ : ∃ n, fuel = n + 1 := Nat.exists_eq_succ_of_ne_zero (by omega)
  match h with
  | .one h =>
    obtain ⟨_, hp, htrail⟩ := readValue?_spaced h fuel (']' :: rest) (by omega) (ends_cons rfl _)
    exact readItems?_last fuel hp htrail
  | @Items.more cs more p items h hs =>
    simp only [List.length_append, List.length_cons] at hfuel
    obtain ⟨_, hp, htrail⟩ :=
      readValue?_spaced h fuel (',' :: (more ++ ']' :: rest)) (by omega) (ends_cons rfl _)
    rw [List.append_assoc, List.cons_append, readItems?_more fuel hp htrail,
      readItems?_items hs fuel rest (by omega)]
    rfl

theorem readFields?_fields {cs : List Char} {fields : List (String × Payload)}
    (h : Fields cs fields) (fuel : Nat) (before : List (String × Payload)) (rest : List Char)
    (hfuel : 2 * cs.length + 1 ≤ fuel) :
    readFields? fuel before (cs ++ '}' :: rest) = some (collect before fields, rest) := by
  obtain ⟨fuel, rfl⟩ : ∃ n, fuel = n + 1 := Nat.exists_eq_succ_of_ne_zero (by omega)
  match h with
  | .one hname h =>
    simp only [List.length_append, List.length_cons] at hfuel
    obtain ⟨_, hp, htrail⟩ := readValue?_spaced h fuel ('}' :: rest) (by omega) (ends_cons rfl _)
    rw [List.append_assoc, List.cons_append]
    exact readFields?_last fuel before hname hp htrail
  | @Fields.more name cs more k p fields hname h hs =>
    simp only [List.length_append, List.length_cons] at hfuel
    obtain ⟨_, hp, htrail⟩ :=
      readValue?_spaced h fuel (',' :: (more ++ '}' :: rest)) (by omega) (ends_cons rfl _)
    simp only [List.append_assoc, List.cons_append]
    rw [readFields?_more fuel before hname hp htrail]
    exact readFields?_fields hs fuel _ rest (by omega)

end

theorem ofJson?_of_text {s : String} {p : Payload} (h : Json.Text s p) : ofJson? s = some p := by
  have hnil : Ends [] := by simp [Ends]
  obtain ⟨trail, hp, htrail⟩ := readValue?_spaced h (2 * s.toList.length + 2) [] (by omega) hnil
  rw [List.append_nil] at hp
  have hend : (skipSpace trail).isEmpty = true := by rw [htrail]; rfl
  simp only [ofJson?, hp, hend, if_true]

/-- No text stands for two payloads. -/
theorem Text.unique {s : String} {p q : Payload} (hp : Json.Text s p) (hq : Json.Text s q) :
    p = q :=
  Option.some.inj ((ofJson?_of_text hp).symm.trans (ofJson?_of_text hq))

end ScriptGateway.Json
