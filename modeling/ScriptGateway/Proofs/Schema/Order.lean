import ScriptGateway.Proofs.Schema.Elements
import ScriptGateway.Specifier.Resolve

/-!
# The order of declarations

Neither pass over the declared classes depends on their order. Whether they load is said of their
keys and properties alone (`ClassTable.exists_ofDecls_iff`); and of two orders that load, the second
pass makes the same of each class (`ClassInfo.ofMember_perm`), since it asks for owners, members and
parents by name only. So both tables find the same classes (`ClassTable.Agree`), and a walk asks
nothing else of a table (`Walk.steps_eq_of_agree`). Main statement: `ClassRegistry.load_perm`.
-/

set_option autoImplicit false

namespace ScriptGateway

variable {cs cs' : List ClassDecl} {enumerations enumerations' : List String} {t t' : ClassTable}

/-! ## The second pass -/

theorem ClassDecl.parent?_perm (hp : cs.Perm cs') (hcs : (cs.map (·.name)).Nodup) :
    parent? cs = parent? cs' := by
  funext c
  simp only [parent?, namedParent?, find?_perm hp hcs]

theorem ClassDecl.lineage_perm (hp : cs.Perm cs') (hcs : (cs.map (·.name)).Nodup) (c : ClassDecl) :
    c.lineage cs = c.lineage cs' := by
  have hclimbs' := climbs_lineage ((hp.map _).nodup_iff.1 hcs) c
  rw [← parent?_perm hp hcs] at hclimbs'
  exact (climbs_lineage hcs c).unique hclimbs'

namespace Roster.Registers

variable {r r' : Roster}

theorem get?_owners_perm (hp : cs.Perm cs') (hr : r.Registers cs) (hr' : r'.Registers cs')
    (k : Key) : r.owners.get? k = r'.owners.get? k := by
  refine Option.ext fun v => ?_
  rw [hr.owners, hr'.owners]
  exact exists_congr fun c => and_congr_left fun _ => hp.mem_iff

theorem member?_perm (hp : cs.Perm cs') (hr : r.Registers cs) (hr' : r'.Registers cs')
    (name : String) : r.member? name = r'.member? name := by
  have hmembers : r.members.Perm r'.members := by
    rw [hr.members, hr'.members]
    exact hp.map _
  exact find?_perm hmembers hr.nodup_members name

end Roster.Registers

theorem ClassInfo.ofMember_perm {r r' : Roster} {ks ks' : List Key} (hp : cs.Perm cs')
    (hr : r.Registers cs) (hr' : r'.Registers cs') (hks : ∀ k, k ∈ ks ↔ k ∈ ks')
    (m : ClassDecl × String) : ofMember r ks m = ofMember r' ks' m := by
  have howner := hr.get?_owners_perm hp hr'
  have hmember := hr.member?_perm hp hr'
  have hlineage : m.1.lineage r.decls = m.1.lineage r'.decls := by
    rw [hr.decls_eq, hr'.decls_eq]
    exact ClassDecl.lineage_perm hp (Roster.nodup_names hr.apart) m.1
  have hkind : ∀ type, PropertyKind.of type r.owners.keys ks = .of type r'.owners.keys ks' := by
    refine fun type => PropertyKind.of_congr (fun k => ?_) hks
    rw [hr.mem_owners_keys, hr'.mem_owners_keys]
    exact (hp.flatMap_right _).mem_iff
  have helements : ∀ names, elementKeys r names = elementKeys r' names := by
    intro names
    simp only [elementKeys, howner, hmember]
  simp only [ofMember, hlineage, hkind, helements]

/-! ## Two tables -/

namespace ClassTable

/-- Both tables find the same classes. -/
structure Agree (t t' : ClassTable) : Prop where
  named : ∀ name, t.named? name = t'.named? name
  lookup : ∀ name, t.lookup? name = t'.lookup? name

namespace Agree

theorem elementClass?_eq (h : t.Agree t') (owner : ClassInfo) (name : String) :
    t.elementClass? owner name = t'.elementClass? owner name := by
  have hnamed : t.named? = t'.named? := funext h.named
  simp only [elementClass?, hnamed]

theorem propertyClass?_eq (h : t.Agree t') (p : Property) :
    t.propertyClass? p = t'.propertyClass? p := by
  simp only [propertyClass?, h.lookup]

theorem root_eq (h : t.Agree t') : t.root = t'.root := by
  simp only [root, h.lookup]

end Agree

theorem mem_classes_of_perm (hp : cs.Perm cs')
    (hes : ∀ e, e ∈ enumerations ↔ e ∈ enumerations') (h : ofDecls cs enumerations = .ok t)
    (h' : ofDecls cs' enumerations' = .ok t') {c : ClassInfo} (hc : c ∈ t.classes) :
    c ∈ t'.classes := by
  obtain ⟨r, hr, -, hclasses⟩ := exists_roster h
  obtain ⟨r', hr', -, hclasses'⟩ := exists_roster h'
  obtain ⟨d, hd, -, hok⟩ := Outcome.exists_left_of_mem hclasses hc
  obtain ⟨c', hc', -, hok'⟩ := Outcome.exists_right_of_mem hclasses' (hp.mem_iff.1 hd)
  have hks : ∀ k, k ∈ enumerations.map Key.of ↔ k ∈ enumerations'.map Key.of := fun k => by
    simp only [List.mem_map, hes]
  rw [← ClassInfo.ofMember_perm hp hr hr' hks, hok] at hok'
  cases hok'
  exact hc'

theorem agree_of_perm (hp : cs.Perm cs') (hes : ∀ e, e ∈ enumerations ↔ e ∈ enumerations')
    (h : ofDecls cs enumerations = .ok t) (h' : ofDecls cs' enumerations' = .ok t') :
    t.Agree t' := by
  have ht := indexed_ofDecls h
  have ht' := indexed_ofDecls h'
  have hmem : ∀ c, c ∈ t.classes ↔ c ∈ t'.classes := fun c =>
    ⟨mem_classes_of_perm hp hes h h',
      mem_classes_of_perm hp.symm (fun e => (hes e).symm) h' h⟩
  refine ⟨fun name => Option.ext fun c => ?_, fun name => Option.ext fun c => ?_⟩
  · rw [ht.named?_eq_some_iff, ht'.named?_eq_some_iff, hmem]
  · rw [ht.lookup?_eq_some_iff, ht'.lookup?_eq_some_iff, hmem]

theorem exists_ofDecls_perm (hp : cs.Perm cs') :
    (∃ t, ofDecls cs enumerations = .ok t) ↔ ∃ t, ofDecls cs' enumerations' = .ok t := by
  rw [exists_ofDecls_iff, exists_ofDecls_iff, hp.pairwise_iff List.disjoint_symm]
  simp only [hp.mem_iff]

end ClassTable

/-! ## Walks -/

namespace Walk

theorem step_eq_of_agree (h : t.Agree t') (before : List String) (current : ClassInfo)
    (pending : Bool) (segment : String) (isLast : Bool) :
    step t before current pending segment isLast =
      step t' before current pending segment isLast := by
  simp only [step, member, h.elementClass?_eq, h.propertyClass?_eq]

theorem steps_eq_of_agree (h : t.Agree t') (before : List String) (current : ClassInfo)
    (pending : Bool) (segments : List String) :
    steps t before current pending segments = steps t' before current pending segments := by
  induction segments generalizing before current pending with
  | nil => rfl
  | cons segment rest ih => simp only [steps, step_eq_of_agree h, ih]

end Walk

theorem resolve_eq_of_agree (h : t.Agree t') (path stem : String) :
    resolve ⟨some t⟩ path stem = resolve ⟨some t'⟩ path stem := by
  have htable : ∀ t : ClassTable, (⟨some t⟩ : ClassRegistry).table = .ok t := fun _ => rfl
  simp only [resolve, htable, Except.mapError, bind, Except.bind, h.root_eq,
    Walk.steps_eq_of_agree h]

/-- **The order of declarations makes no difference**: the same classes in another order, with the
same enumerations, load or do not load alike, and once they are loaded every name finds the same
class and every path is followed in the same way. -/
theorem ClassRegistry.load_perm (hp : cs.Perm cs')
    (hes : ∀ e, e ∈ enumerations ↔ e ∈ enumerations') :
    ((∃ r, ClassRegistry.empty.load cs enumerations = .ok r) ↔
        ∃ r', ClassRegistry.empty.load cs' enumerations' = .ok r') ∧
      ∀ r r', ClassRegistry.empty.load cs enumerations = .ok r →
        ClassRegistry.empty.load cs' enumerations' = .ok r' →
        (∀ s, r.lookup? s = r'.lookup? s) ∧
        ∀ path stem, resolve r path stem = resolve r' path stem := by
  have hload : ∀ cs enumerations, (∃ r, ClassRegistry.empty.load cs enumerations = .ok r) ↔
      ∃ t, ClassTable.ofDecls cs enumerations = .ok t := by
    intro cs enumerations
    simp only [load_ok_iff]
    rw [exists_comm]
    simp only [exists_and_left, exists_eq, and_true]
  refine ⟨?_, fun r r' h h' => ?_⟩
  · rw [hload, hload]
    exact ClassTable.exists_ofDecls_perm hp
  · obtain ⟨t, ht, rfl⟩ := load_ok_iff.1 h
    obtain ⟨t', ht', rfl⟩ := load_ok_iff.1 h'
    have hagree := ClassTable.agree_of_perm hp hes ht ht'
    exact ⟨hagree.lookup, resolve_eq_of_agree hagree⟩

/-- The catalogue read backwards, so that the playlists stand before the file tracks that they
contain and the file tracks before the tracks that they inherit from. -/
theorem ClassRegistry.load_perm_catalogue :
    ∃ r r' s, catalogue.reverse ≠ catalogue ∧
      ClassRegistry.empty.load catalogue ["item kind", "sort"] = .ok r ∧
      ClassRegistry.empty.load catalogue.reverse ["sort", "item kind", "sort"] = .ok r' ∧
      r.lookup? "fileTracks" = r'.lookup? "fileTracks" ∧
      resolve r "/lists/2/playlist/'All'/file_tracks/1/kind" pathStem = .ok s ∧
      resolve r' "/lists/2/playlist/'All'/file_tracks/1/kind" pathStem = .ok s := by
  have hok : ((ClassRegistry.empty.load catalogue ["item kind", "sort"]).toOption.bind fun r =>
      (resolve r "/lists/2/playlist/'All'/file_tracks/1/kind" pathStem).toOption).isSome =
      true := by decide +kernel
  obtain ⟨s, hs⟩ := Option.isSome_iff_exists.1 hok
  obtain ⟨r, hr, hs⟩ := Option.bind_eq_some_iff.1 hs
  have hload := Outcome.toOption_eq_some.1 hr
  have hfollowed := Outcome.toOption_eq_some.1 hs
  have hperm : catalogue.Perm catalogue.reverse := (List.reverse_perm catalogue).symm
  have hes : ∀ e, e ∈ ["item kind", "sort"] ↔ e ∈ ["sort", "item kind", "sort"] := by
    intro e
    simp only [List.mem_cons, List.not_mem_nil, or_false]
    constructor
    · rintro (h | h)
      · exact .inr (.inl h)
      · exact .inl h
    · rintro (h | h | h)
      · exact .inr h
      · exact .inl h
      · exact .inr h
  obtain ⟨haccepted, hsame⟩ := load_perm hperm hes
  obtain ⟨r', hload'⟩ := haccepted.1 ⟨r, hload⟩
  obtain ⟨hlookup, hresolve⟩ := hsame r r' hload hload'
  exact ⟨r, r', s, by decide, hload, hload', hlookup _, hfollowed, hresolve _ _ ▸ hfollowed⟩

end ScriptGateway
