import ScriptGateway.Proofs.Schema.Elements

/-!
# Keys of a loaded table

In a table that was loaded, a class is found under its own name, an element class under both of its
names, and a property under its own (`ClassTable.Keyed`). It comes from the first pass: no two
classes share a key (`ClassTable.Indexed`), so that no class takes a key away from another one when
the second pass fills in the elements (`ClassTable.get?_elements`).
-/

set_option autoImplicit false

namespace ScriptGateway

/-- Classes, their elements and their properties are found under their names. -/
structure ClassTable.Keyed (t : ClassTable) : Prop where
  named : ∀ c ∈ t.classes, t.named? c.name = some c
  element : ∀ c ∈ t.classes, ∀ d ∈ t.classes, d.name ∈ c.elements.values →
    c.elements.get? (Key.of d.name) = some d.name ∧
      c.elements.get? (Key.of d.plural) = some d.name
  property : ∀ c ∈ t.classes, ∀ p ∈ c.properties.values, c.property? p.name = some p

variable {r : Roster} {cs : List ClassDecl} {enumerations : List String}
  {enumerationKeys : List Key} {m : ClassDecl × String} {c : ClassInfo} {t : ClassTable}

theorem ClassInfo.nodup_elements (h : ofMember r enumerationKeys m = .ok c) :
    c.elements.keys.Nodup := by
  obtain ⟨decls, -, rfl⟩ := ofMember_ok_iff.1 h
  exact nodup_elementKeys r _

theorem ClassInfo.property?_of_mem (h : ofMember r enumerationKeys m = .ok c) {p : Property}
    (hp : p ∈ c.properties.values) : c.property? p.name = some p := by
  obtain ⟨decls, -, rfl⟩ := ofMember_ok_iff.1 h
  obtain ⟨k, hk⟩ := (OrderedMap.mem_values_iff (OrderedMap.nodup_keys_ofList _)).1 hp
  obtain ⟨d, -, hd⟩ := List.mem_map.1 (OrderedMap.mem_of_get?_ofList hk)
  obtain ⟨rfl, rfl⟩ := Prod.mk.inj hd
  exact hk

theorem ClassTable.keyed_ofDecls (h : ofDecls cs enumerations = .ok t) : t.Keyed := by
  have hindexed := indexed_ofDecls h
  obtain ⟨r, hr, howners, hclasses⟩ := exists_roster h
  refine ⟨fun c hc => hindexed.named?_eq_some_iff.2 ⟨hc, rfl⟩, fun c hc d hd hmem => ?_,
    fun c hc p hp => ?_⟩
  · obtain ⟨decl, -, -, hok⟩ := Outcome.exists_left_of_mem hclasses hc
    obtain ⟨k, hk⟩ := (OrderedMap.mem_values_iff (ClassInfo.nodup_elements hok)).1 hmem
    obtain ⟨-, hnamed⟩ := (get?_elements hr howners hok k d.name).1 hk
    -- the class is named, so every key of it leads to it
    have hkeys : ∀ k ∈ d.keys, c.elements.get? k = some d.name := fun k hk =>
      (get?_elements hr howners hok k d.name).2 ⟨(hindexed.owner_iff hd).2 hk, hnamed⟩
    exact ⟨hkeys _ d.singular_mem_keys, hkeys _ d.plural_mem_keys⟩
  · obtain ⟨decl, -, -, hok⟩ := Outcome.exists_left_of_mem hclasses hc
    exact ClassInfo.property?_of_mem hok hp

/-- A declared class is found under its singular and under its plural name. -/
theorem ClassTable.lookup?_declared (h : ofDecls cs enumerations = .ok t) {c : ClassDecl}
    (hc : c ∈ cs) :
    ∃ info, t.lookup? c.name = some info ∧ t.lookup? (Roster.pluralOf c) = some info ∧
      info.name = c.name := by
  have hindexed := indexed_ofDecls h
  obtain ⟨info, hinfo, hname, hplural⟩ := Outcome.exists_right_of_mem (listed h) hc
  refine ⟨info, ?_, ?_, hname⟩
  · exact hindexed.lookup?_eq_some_iff.2 ⟨hinfo, hname ▸ info.singular_mem_keys⟩
  · exact hindexed.lookup?_eq_some_iff.2 ⟨hinfo, hplural ▸ info.plural_mem_keys⟩

theorem ClassRegistry.keyed_of_load {registry : ClassRegistry}
    (h : ClassRegistry.empty.load cs enumerations = .ok registry)
    (ht : registry.table? = some t) : t.Keyed := by
  obtain ⟨t', ht', rfl⟩ := load_ok_iff.1 h
  cases ht
  exact ClassTable.keyed_ofDecls ht'

end ScriptGateway
