import ScriptGateway.Naming.Variable
import ScriptGateway.Proofs.Text.Trimming

/-!
# Characters of stems

A stem for variables has ASCII letters, ASCII digits and underscores only (`mem_variableStem`).
-/

set_option autoImplicit false

namespace ScriptGateway

namespace Naming

/-- ASCII letters and digits are kept, and underscores stand for all else. -/
theorem mem_underscoreRuns {within : Bool} {cs : List Char} {c : Char}
    (h : c ∈ underscoreRuns within cs) : (Text.isAsciiAlnum c = true ∧ c ∈ cs) ∨ c = '_' := by
  induction cs generalizing within with
  | nil => cases h
  | cons d cs ih =>
    have hrest : ∀ {within}, c ∈ underscoreRuns within cs →
        (Text.isAsciiAlnum c = true ∧ c ∈ d :: cs) ∨ c = '_' :=
      fun hc => (ih hc).imp_left (And.imp_right (List.mem_cons_of_mem d))
    unfold underscoreRuns at h
    split at h
    · rename_i hd
      rcases List.mem_cons.1 h with rfl | h
      · exact .inl ⟨hd, List.mem_cons_self⟩
      · exact hrest h
    · split at h
      · exact hrest h
      · rcases List.mem_cons.1 h with rfl | h
        · exact .inr rfl
        · exact hrest h

theorem mem_variableStem {name : String} {c : Char} (h : c ∈ (variableStem name).toList) :
    Text.isAsciiAlnum c = true ∨ c = '_' := by
  unfold variableStem at h
  split at h
  · have hobj : ['o', 'b', 'j'].all Text.isAsciiAlnum = true := by decide
    exact .inl (List.all_eq_true.1 hobj c h)
  · rename_i d rest htrim
    have hrest : c ∈ d :: rest → Text.isAsciiAlnum c = true ∨ c = '_' := by
      rw [← htrim]
      exact fun hc => (mem_underscoreRuns (Text.mem_of_mem_trimWhile hc)).imp_left And.left
    rw [String.toList_ofList] at h
    split at h
    · rcases List.mem_cons.1 h with rfl | h
      · exact .inl (by decide)
      · exact hrest h
    · exact hrest h

end Naming

end ScriptGateway
