import ScriptGateway.Script.Literal

/-!
# Where a literal ends

A script reads a literal up to the first double quote that is not escaped (`readLiteral?`). What it
reads of a written text is that text, whatever follows, and nothing of a part of the literal is a
literal of its own. The writer is one pass over the characters; it does what escaping all
backslashes and then all double quotes does (`flatMap_escapeChar`). Main statement:
`textLiteral_delimited`.
-/

set_option autoImplicit false

namespace ScriptGateway.Script

/-- What a script reads from the front: the text of one literal, and the rest. -/
def readLiteral? : List Char → Option (List Char × List Char)
  | '"' :: rest => readText? rest
  | _ => none

theorem toList_textLiteral (t : String) :
    (textLiteral t).toList = '"' :: (t.toList.flatMap escapeChar ++ ['"']) :=
  String.toList_ofList

/-- A written text is read back, and what follows it is left. -/
theorem readLiteral?_textLiteral (t : String) (rest : List Char) :
    readLiteral? ((textLiteral t).toList ++ rest) = some (t.toList, rest) := by
  rw [toList_textLiteral, List.cons_append, readLiteral?, List.append_assoc, List.singleton_append,
    readText?_escape]

/-! ## Reading on -/

theorem readText?_cons {c : Char} {cs : List Char} (hquote : c ≠ '"') (hbackslash : c ≠ '\\') :
    readText? (c :: cs) = (readText? cs).map fun p => (c :: p.1, p.2) := by
  rw [readText?]
  · exact hquote
  · exact fun _ _ h _ => hbackslash h

/-- What stands behind a closed text makes no difference to how it is read. -/
theorem readText?_append {cs text rest : List Char} (h : readText? cs = some (text, rest))
    (more : List Char) : readText? (cs ++ more) = some (text, rest ++ more) := by
  induction cs using readText?.induct generalizing text rest with
  | case1 => cases h
  | case2 =>
    cases h
    rfl
  | case3 c tail ih =>
    rw [readText?] at h
    obtain ⟨d, hd, h⟩ := Option.bind_eq_some_iff.1 h
    obtain ⟨⟨text', rest'⟩, htail, heq⟩ := Option.map_eq_some_iff.1 h
    cases heq
    rw [List.cons_append, List.cons_append, readText?]
    exact Option.bind_eq_some_iff.2 ⟨d, hd, Option.map_eq_some_iff.2 ⟨_, ih htail, rfl⟩⟩
  | case4 c tail hquote hescape ih =>
    -- a backslash has something behind it, since there is a closing quote
    have hplain : c ≠ '\\' := by
      rintro rfl
      cases tail with
      | nil => cases h
      | cons d tail => exact hescape d tail rfl rfl
    rw [readText?_cons hquote hplain] at h
    obtain ⟨⟨text', rest'⟩, htail, heq⟩ := Option.map_eq_some_iff.1 h
    cases heq
    rw [List.cons_append, readText?_cons hquote hplain]
    exact Option.map_eq_some_iff.2 ⟨_, ih htail, rfl⟩

theorem readLiteral?_append {cs text rest : List Char} (h : readLiteral? cs = some (text, rest))
    (more : List Char) : readLiteral? (cs ++ more) = some (text, rest ++ more) := by
  unfold readLiteral? at h
  split at h
  · exact readText?_append h more
  · cases h

/-! ## Writing in two passes -/

/-- Writes a backslash before every `x`. -/
def escapeAll (x : Char) (cs : List Char) : List Char :=
  cs.flatMap fun c => if c = x then ['\\', c] else [c]

/-- Backslashes are escaped first, so that those written before double quotes stay single. -/
theorem flatMap_escapeChar (cs : List Char) :
    cs.flatMap escapeChar = escapeAll '"' (escapeAll '\\' cs) := by
  simp only [escapeAll, List.flatMap_assoc]
  congr 1
  funext c
  by_cases hbackslash : c = '\\'
  · simp [hbackslash, escapeChar]
  · by_cases hquote : c = '"'
    · simp [hquote, escapeChar]
    · simp [hbackslash, hquote, escapeChar]

/-- Escaped the other way round, a double quote ends its own literal. -/
example : readText? (escapeAll '\\' (escapeAll '"' ['"']) ++ ['"']) = some (['\\'], ['"']) := by
  decide

/-! ## Literals -/

/-- **A literal ends where it was closed**: of a written text followed by anything, that text is read
and what follows is left. So different texts have different literals, and no literal can end before
its last character. -/
theorem textLiteral_delimited :
    (∀ t u : String, readLiteral? (textLiteral t ++ u).toList = some (t.toList, u.toList)) ∧
      Function.Injective textLiteral ∧
      (∀ t : String, ∀ front, front <+: (textLiteral t).toList → front ≠ (textLiteral t).toList →
        readLiteral? front = none) ∧
      ∀ t : String,
        (textLiteral t).toList = '"' :: (escapeAll '"' (escapeAll '\\' t.toList) ++ ['"']) := by
  refine ⟨fun t u => ?_, fun t t' heq => ?_, fun t front hfront hne => ?_, fun t => ?_⟩
  · rw [String.toList_append, readLiteral?_textLiteral]
  · have hread := readLiteral?_textLiteral t []
    rw [heq, readLiteral?_textLiteral] at hread
    exact (String.toList_injective (Prod.mk.inj (Option.some.inj hread)).1).symm
  · obtain ⟨back, hback⟩ := hfront
    rw [← Option.not_isSome_iff_eq_none, Option.isSome_iff_exists]
    rintro ⟨⟨text, rest⟩, hread⟩
    -- what follows the text that is read would have to be empty
    have hwhole := readLiteral?_append hread back
    have hall := readLiteral?_textLiteral t []
    rw [hback] at hwhole
    rw [List.append_nil, hwhole] at hall
    have hnil : rest ++ back = [] := (Prod.mk.inj (Option.some.inj hall)).2
    rw [(List.append_eq_nil_iff.1 hnil).2, List.append_nil] at hback
    exact hne hback
  · rw [toList_textLiteral, flatMap_escapeChar]

end ScriptGateway.Script
