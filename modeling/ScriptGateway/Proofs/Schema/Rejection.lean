import Mathlib.Data.List.Pairwise
import ScriptGateway.Proofs.Schema.Inheritance

/-!
# Classes that do not load

Classes are turned away for their names or for their properties. The names clash (`NamesClash`) when
two classes have one name, or when two classes of different names share a key; then the first pass
fails and names the class that came too late (`NameFault`). Otherwise a class that repeats a property
makes the second pass fail, when the lineage of the first class below it is filled in
(`PropertyFault`). Main statement: `ClassRegistry.load_eq_error_iff`.
-/

set_option autoImplicit false

namespace ScriptGateway

variable {cs : List ClassDecl} {f : Fault}

/-! ## Names -/

/-- Two classes have the same name, or two of different names have a key in common. -/
def NamesClash (cs : List ClassDecl) : Prop :=
  ¬ (cs.map (·.name)).Nodup ∨ ∃ c ∈ cs, ∃ d ∈ cs, c.name ≠ d.name ∧ ∃ k ∈ c.keys, k ∈ d.keys

/-- What is reported of names that clash. -/
inductive NameFault (cs : List ClassDecl) : Fault → Prop
  /-- The class has the name of an earlier one. -/
  | repeated {front back : List ClassDecl} {c : ClassDecl} : cs = front ++ c :: back →
      c.name ∈ front.map (·.name) → NameFault cs (.definition c.name .repeatedClass)
  /-- The class has a key of another one. -/
  | taken {c d : ClassDecl} {k : Key} : c ∈ cs → d ∈ cs → d.name ≠ c.name → k ∈ c.keys →
      k ∈ d.keys → NameFault cs (.definition c.name (.keyTaken k.text d.name))

/-- Names clash as soon as two classes have a key in common: a name shared by two classes is a key
shared by them. -/
theorem namesClash_iff :
    NamesClash cs ↔ ¬ cs.Pairwise fun c d => c.keys.Disjoint d.keys := by
  constructor
  · rintro (hrepeated | ⟨c, hc, d, hd, hother, k, hkc, hkd⟩) hapart
    · exact hrepeated (Roster.nodup_names hapart)
    · have hne : c ≠ d := fun heq => hother (congrArg _ heq)
      have hsymm : Std.Symm fun c d : ClassDecl => c.keys.Disjoint d.keys :=
        ⟨fun _ _ => List.disjoint_symm⟩
      exact hapart.forall hc hd hne hkc hkd
  · intro hshared
    by_cases hnames : (cs.map (·.name)).Nodup
    · refine .inr ?_
      by_contra hnone
      refine hshared ((List.pairwise_map.1 hnames).imp_of_mem fun {c d} hc hd hother k hkc hkd => ?_)
      exact hnone ⟨c, hc, d, hd, hother, k, hkc, hkd⟩
    · exact .inl hnames

theorem nameFault_of_roster (h : Roster.ofDecls cs = .error f) : NamesClash cs ∧ NameFault cs f := by
  refine ⟨namesClash_iff.2 fun hapart => ?_, ?_⟩
  · obtain ⟨r, hr⟩ := Roster.exists_ofDecls_iff.2 hapart
    rw [hr] at h
    cases h
  · rcases Roster.exists_turned_away h with ⟨front, c, back, hcs, hname, rfl⟩ |
      ⟨c, hc, d, hd, hother, k, hkc, hkd, rfl⟩
    · exact .repeated hcs hname
    · exact .taken hc hd hother hkc hkd

/-! ## Properties -/

/-- What is reported of a class that repeats a property: the first one that has the key of an earlier
one. -/
inductive PropertyFault (cs : List ClassDecl) : Fault → Prop
  | repeated {c : ClassDecl} {front back : List PropertyDecl} {p : PropertyDecl} : c ∈ cs →
      c.properties = front ++ p :: back → (front.map (Key.of ·.name)).Nodup →
      Key.of p.name ∈ front.map (Key.of ·.name) →
      PropertyFault cs (.definition c.name (.repeatedProperty p.name))

namespace Flatten

variable {owner : String} {declared : List Key} {ps : List PropertyDecl}
  {acc : OrderedMap Key PropertyDecl}

/-- Adding properties fails at the first one whose key was declared before. -/
theorem addProperties_eq_error (h : addProperties owner declared ps acc = .error f) :
    ∃ front p back, ps = front ++ p :: back ∧ (front.map (Key.of ·.name)).Nodup ∧
      (∀ q ∈ front, Key.of q.name ∉ declared) ∧
      (Key.of p.name ∈ declared ∨ Key.of p.name ∈ front.map (Key.of ·.name)) ∧
      f = .definition owner (.repeatedProperty p.name) := by
  induction ps generalizing declared acc with
  | nil => cases h
  | cons p ps ih =>
    rw [addProperties] at h
    split at h
    · rename_i hp
      cases h
      exact ⟨[], p, ps, rfl, List.nodup_nil, by simp, .inl hp, rfl⟩
    · rename_i hp
      obtain ⟨front, q, back, rfl, hfront, hfresh, hq, rfl⟩ := ih h
      simp only [List.mem_cons, not_or] at hfresh hq
      refine ⟨p :: front, q, back, rfl, ?_, ?_, ?_, rfl⟩
      · refine List.nodup_cons.2 ⟨fun hmem => ?_, hfront⟩
        obtain ⟨q', hq', hkey⟩ := List.mem_map.1 hmem
        exact (hfresh q' hq').1 hkey
      · exact List.forall_mem_cons.2 ⟨hp, fun q' hq' => (hfresh q' hq').2⟩
      · rw [List.map_cons, List.mem_cons]
        rcases hq with (hsame | hdeclared) | hmem
        · exact .inr (.inl hsame)
        · exact .inl hdeclared
        · exact .inr (.inr hmem)

theorem properties_eq_error {row : List ClassDecl} (hrow : row ⊆ cs)
    (h : properties row = .error f) : PropertyFault cs f := by
  obtain ⟨before, c, after, acc, rfl, -, hc⟩ := Outcome.foldlM_eq_error h
  obtain ⟨front, p, back, hsplit, hfront, -, hkey, rfl⟩ := addProperties_eq_error hc
  exact .repeated (hrow (List.mem_append_right _ List.mem_cons_self)) hsplit hfront
    (hkey.resolve_left List.not_mem_nil)

end Flatten

/-- Each class is filled in from its lineage, which is among the declared classes. -/
theorem ClassInfo.propertyFault_of_ofMember {r : Roster} {enumerationKeys : List Key}
    {c : ClassDecl} {plural : String} (hr : r.Registers cs) (hc : c ∈ cs)
    (h : ofMember r enumerationKeys (c, plural) = .error f) : PropertyFault cs f := by
  simp only [ofMember, Outcome.bind_eq_error, pure, Except.pure, reduceCtorEq, and_false,
    exists_false, or_false, hr.decls_eq] at h
  refine Flatten.properties_eq_error (fun a ha => ?_) h
  exact ClassDecl.lineage_subset (Roster.nodup_names hr.apart) hc (List.mem_reverse.1 ha)

/-- What keeps classes from loading: their names, or else their properties. -/
theorem ClassTable.fault_of_ofDecls {enumerations : List String}
    (h : ofDecls cs enumerations = .error f) :
    NamesClash cs ∧ NameFault cs f ∨ ¬ NamesClash cs ∧ PropertyFault cs f := by
  rw [ofDecls, Outcome.bind_eq_error] at h
  rcases h with hroster | ⟨r, hroster, hclasses⟩
  · exact .inl (nameFault_of_roster hroster)
  · have hr := Roster.registers_ofDecls hroster
    refine .inr ⟨fun hclash => namesClash_iff.1 hclash hr.apart, ?_⟩
    simp only [Outcome.bind_eq_error, pure, Except.pure, reduceCtorEq, and_false, exists_false,
      or_false] at hclasses
    obtain ⟨front, m, back, hmembers, -, hm⟩ := Outcome.mapM_eq_error_iff.1 hclasses
    have hmem : m ∈ r.members := hmembers ▸ List.mem_append_right _ List.mem_cons_self
    rw [hr.members] at hmem
    obtain ⟨c, hc, rfl⟩ := List.mem_map.1 hmem
    exact ClassInfo.propertyFault_of_ofMember hr hc hm

/-- **Classes are turned away exactly when they are ambiguous**: two have the same name, or two of
different names a key in common, or one declares two properties of the same key. What is reported is
always one of these, and a property only when the names do not clash. -/
theorem ClassRegistry.load_eq_error_iff (cs : List ClassDecl) (enumerations : List String) :
    ((∃ name reason, ClassRegistry.empty.load cs enumerations = .error (.definition name reason)) ↔
      NamesClash cs ∨ ∃ c ∈ cs, ¬ (c.properties.map (Key.of ·.name)).Nodup) ∧
    ∀ f, ClassRegistry.empty.load cs enumerations = .error f →
      NamesClash cs ∧ NameFault cs f ∨ ¬ NamesClash cs ∧ PropertyFault cs f := by
  have hload : ∀ f, ClassRegistry.empty.load cs enumerations = .error f ↔
      ClassTable.ofDecls cs enumerations = .error f := fun f => Outcome.map_eq_error
  have hfails : (∃ f, ClassTable.ofDecls cs enumerations = .error f) ↔
      NamesClash cs ∨ ∃ c ∈ cs, ¬ (c.properties.map (Key.of ·.name)).Nodup := by
    simp only [Outcome.exists_error_iff, ClassTable.exists_ofDecls_iff, namesClash_iff, not_and_or,
      not_forall, exists_prop]
    rfl
  refine ⟨?_, fun f hf => ClassTable.fault_of_ofDecls ((hload f).1 hf)⟩
  rw [← hfails]
  constructor
  · rintro ⟨name, reason, h⟩
    exact ⟨_, (hload _).1 h⟩
  · rintro ⟨f, h⟩
    -- both kinds of faults are about a definition
    rcases ClassTable.fault_of_ofDecls h with ⟨-, hname⟩ | ⟨-, hproperty⟩
    · cases hname <;> exact ⟨_, _, (hload _).2 h⟩
    · cases hproperty
      exact ⟨_, _, (hload _).2 h⟩

end ScriptGateway
