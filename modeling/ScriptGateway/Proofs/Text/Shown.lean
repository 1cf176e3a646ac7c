import ScriptGateway.Text.ControlSequence

/-!
# What is shown as it is

Showing a text takes characters away and adds none, so a text is shown as it is exactly when there
is nothing to take away: no control sequence anywhere in it (`shown_eq_self_iff`).
-/

set_option autoImplicit false

namespace ScriptGateway.Text

/-- No control sequence starts anywhere in the text. -/
def IsBare (s : String) : Prop := ∀ rest, rest <:+ s.toList → sequenceLength rest = 0

theorem dropSequences_sublist (owed : Nat) (cs : List Char) :
    (dropSequences owed cs).Sublist cs := by
  fun_induction dropSequences owed cs with
  | case1 => exact List.Sublist.refl _
  | case2 owed c rest ih => exact ih.trans (List.sublist_cons_self c rest)
  | case3 c rest _ ih => exact ih.cons_cons c
  | case4 c rest owed _ ih => exact ih.trans (List.sublist_cons_self c rest)

/-- A sequence at the start of a suffix is left out, so nothing is left out exactly when no suffix
starts with one. -/
theorem dropSequences_eq_self_iff {cs : List Char} :
    dropSequences 0 cs = cs ↔ ∀ rest, rest <:+ cs → sequenceLength rest = 0 := by
  induction cs with
  | nil =>
    refine iff_of_true rfl fun rest hrest => ?_
    rw [List.suffix_nil.1 hrest]
    rfl
  | cons c cs ih =>
    have hsuffixes : (∀ rest, rest <:+ c :: cs → sequenceLength rest = 0) ↔
        sequenceLength (c :: cs) = 0 ∧ ∀ rest, rest <:+ cs → sequenceLength rest = 0 := by
      simp only [List.suffix_cons_iff, forall_eq_or_imp]
    rw [hsuffixes, ← ih, dropSequences]
    split
    · rename_i hnone
      simp [hnone]
    · rename_i owed hsome
      have hlength := (dropSequences_sublist owed cs).length_le
      refine iff_of_false (fun h => ?_) fun h => ?_
      · rw [h, List.length_cons] at hlength
        omega
      · rw [h.1] at hsome
        cases hsome

theorem shown_eq_self_iff {s : String} : shown s = s ↔ IsBare s := by
  rw [IsBare, ← dropSequences_eq_self_iff, ← String.toList_inj, shown, String.toList_ofList]

end ScriptGateway.Text
