import ScriptGateway.Proofs.OrderedMap
import ScriptGateway.Proofs.Specifier.Nesting

/-!
# Names of a dictionary in a chain

A chain spells names of classes and of properties, and all of them stand in the table that was
walked. So what holds of every name of a table (`ClassTable.Named`) holds of those of a followed
chain (`Walk.Leads.named`), and of the expression for what is addressed if it is kept by the way
that is put together (`Specifier.reference_of_named`).
-/

set_option autoImplicit false

namespace ScriptGateway

variable {P : String → Prop}

/-- `P` holds of the name of the class that the step leads to, and of that of its property. -/
def Step.Named (P : String → Prop) (s : Step) : Prop :=
  P s.target.name ∧ ∀ p, s.selection = .objectProperty p ∨ s.selection = .property p → P p.name

/-- `P` holds of the names of all classes and of all properties. -/
def ClassTable.Named (P : String → Prop) (t : ClassTable) : Prop :=
  ∀ c ∈ t.classes, P c.name ∧ ∀ p ∈ c.properties.values, P p.name

theorem ClassTable.Named.property? {t : ClassTable} {c : ClassInfo} (ht : t.Named P)
    (hc : t.named? c.name = some c) {name : String} {p : Property}
    (hp : c.property? name = some p) : P p.name :=
  (ht c (List.mem_of_find?_eq_some hc)).2 p (OrderedMap.mem_values_of_get? hp)

namespace Walk

variable {t : ClassTable} {current : ClassInfo} {pending isLast : Bool} {segment : String}
  {s : Step}

theorem Move.named (h : Move t current pending segment isLast s) (ht : t.Named P)
    (hc : t.named? current.name = some current) : s.Named P := by
  refine ⟨(ht _ (List.mem_of_find?_eq_some (h.registered hc))).1, fun p hp => ?_⟩
  cases h with
  | across _ _ _ hprop | property _ hprop =>
    obtain rfl := Selection.property.inj (hp.resolve_left (by simp))
    exact ht.property? hc hprop
  | descend _ _ hprop =>
    obtain rfl := Selection.objectProperty.inj (hp.resolve_right (by simp))
    exact ht.property? hc hprop
  | index | quoted | bare | collection => simp at hp

theorem Leads.named {segments : List String} {steps : List Step}
    (h : Leads t current pending segments steps) (ht : t.Named P)
    (hc : t.named? current.name = some current) : ∀ x ∈ steps, x.Named P := by
  induction h with
  | here => simp
  | next hm _ ih => exact List.forall_mem_cons.2 ⟨hm.named ht hc, ih (hm.registered hc)⟩

end Walk

/-- The expression for what is addressed is a variable, or the property read from a variable or from
every element of a collection. -/
theorem Specifier.reference_of_named {s : Specifier}
    (hwhole : ∀ {what whole}, P what → P whole → P (ofWhole what whole))
    (hevery : ∀ {name}, P name → P ("every " ++ name)) (hcurrent : P s.current)
    (h : ∀ x ∈ s.steps, x.Named P) : P s.reference := by
  have hsubject : P s.subject := by
    unfold subject
    split
    · split
      · rename_i every hcollection
        rw [collectionBefore?_eq, Option.bind_eq_some_iff] at hcollection
        obtain ⟨x, hx, hcollection⟩ := hcollection
        obtain ⟨hopen, hphrase⟩ := Option.ite_none_right_eq_some.1 hcollection
        have hselection : x.selection = .collection := by simpa [Step.isCollection] using hopen
        have hspelled : x.phrase = "every " ++ x.target.name := by simp [Step.phrase, hselection]
        rw [← Option.some.inj hphrase, hspelled]
        have hmem : x ∈ s.steps := List.dropLast_subset _ (List.mem_of_getLast? hx)
        exact hwhole (hevery (h x hmem).1) hcurrent
      · exact hcurrent
    · exact hcurrent
  unfold reference
  split
  · rename_i p hp
    obtain ⟨x, hx, hxp⟩ := Option.bind_eq_some_iff.1 hp
    exact hwhole ((h x (List.mem_of_getLast? hx)).2 p (.inr (Step.property?_eq_some.1 hxp))) hsubject
  · exact hcurrent

end ScriptGateway
