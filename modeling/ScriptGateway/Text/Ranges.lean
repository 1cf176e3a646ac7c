/-!
# Ranges of code points

A character class given as a list of closed ranges of code points.
-/

set_option autoImplicit false

namespace ScriptGateway.Text

abbrev Ranges := List (Nat × Nat)

def Ranges.contains (t : Ranges) (c : Char) : Bool :=
  t.any fun r => r.1 ≤ c.toNat && c.toNat ≤ r.2

theorem Ranges.contains_iff {t : Ranges} {c : Char} :
    t.contains c = true ↔ ∃ r ∈ t, r.1 ≤ c.toNat ∧ c.toNat ≤ r.2 := by
  simp [Ranges.contains]

end ScriptGateway.Text
