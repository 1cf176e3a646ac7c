import Mathlib.Data.List.Perm.Subperm
import ScriptGateway.Proofs.Schema.Lookup

/-!
# Inheritance

`ClassDecl.Climbs` is the walk from a class up to its ancestors, one rule for its end and one for a
step, and `ClassDecl.climbs_lineage` says that the lineage of a class is that walk. The second pass
fills the properties of a lineage in from its eldest class down, so that younger classes write over
older ones; read from the class up, the nearest declaration counts (`Flatten.get?_properties`). Main
statements:

* `ClassDecl.Climbs.unique`, `ClassDecl.Climbs.nodup`, `ClassDecl.length_lineage_le`: there is one
  walk, it visits no class twice, and it is no longer than the row of all classes.
* `ClassTable.exists_ofDecls_iff`: classes load exactly when no two share a key and none repeats a
  property.
* `ClassRegistry.properties_inherited`: the properties of a loaded class.
-/

set_option autoImplicit false

namespace ScriptGateway

/-! ## The way up -/

namespace ClassDecl

variable {all row row' : List ClassDecl} {seen : List String} {c d : ClassDecl}
  {up : ClassDecl → Option ClassDecl}

/-- The class whose name stands as that of the parent, be it the empty one. -/
def namedParent? (all : List ClassDecl) (c : ClassDecl) : Option ClassDecl :=
  c.inherits.bind fun name => all.find? (·.name = name)

/-- The parent of a class. The empty name is no parent's. -/
def parent? (all : List ClassDecl) (c : ClassDecl) : Option ClassDecl :=
  if c.inherits = some "" then none else c.namedParent? all

/-- `Climbs up seen c row`: the way up from `c`, which comes after classes of the names `seen`,
passes the classes of `row`. It ends before a class that is not there or whose name was passed
already. -/
inductive Climbs (up : ClassDecl → Option ClassDecl) :
    (seen : List String) → ClassDecl → List ClassDecl → Prop
  | stop {seen : List String} {c : ClassDecl} :
      (∀ d, up c = some d → d.name ∈ c.name :: seen) → Climbs up seen c [c]
  | next {seen : List String} {c d : ClassDecl} {row : List ClassDecl} :
      up c = some d → d.name ∉ c.name :: seen → Climbs up (c.name :: seen) d row →
      Climbs up seen c (c :: row)

namespace Climbs

theorem unique (h : Climbs up seen c row) (h' : Climbs up seen c row') : row = row' := by
  induction h generalizing row' with
  | stop hend =>
    cases h' with
    | stop => rfl
    | next hup hnew => exact absurd (hend _ hup) hnew
  | next hup hnew _ ih =>
    cases h' with
    | stop hend => exact absurd (hend _ hup) hnew
    | next hup' _ hrest =>
      obtain rfl := Option.some.inj (hup.symm.trans hup')
      rw [ih hrest]

/-- No name comes twice, nor one that was there before. -/
theorem nodup (h : Climbs up seen c row) (hc : c.name ∉ seen) :
    (row.map (·.name)).Nodup ∧ ∀ d ∈ row, d.name ∉ seen := by
  induction h with
  | stop => simpa using hc
  | @next seen c d row _ hnew _ ih =>
    obtain ⟨hrow, hseen⟩ := ih hnew
    refine ⟨?_, ?_⟩
    · refine List.nodup_cons.2 ⟨fun hmem => ?_, hrow⟩
      obtain ⟨e, he, hname⟩ := List.mem_map.1 hmem
      exact hseen e he (hname ▸ List.mem_cons_self)
    · exact List.forall_mem_cons.2
        ⟨hc, fun e he hmem => hseen e he (List.mem_cons_of_mem _ hmem)⟩

theorem subset (h : Climbs up seen c row) (hc : c ∈ all) (hup : ∀ c d, up c = some d → d ∈ all) :
    row ⊆ all := by
  induction h with
  | stop => simpa using hc
  | next hparent _ _ ih => exact List.cons_subset.2 ⟨hc, ih (hup _ _ hparent)⟩

end Climbs

/-! ## The lineage -/

theorem parent?_eq_some_iff (hall : (all.map (·.name)).Nodup) :
    c.parent? all = some d ↔ c.inherits = some d.name ∧ d.name ≠ "" ∧ d ∈ all := by
  unfold parent? namedParent?
  split
  · rename_i hempty
    simp only [hempty, reduceCtorEq, Option.some.injEq, false_iff, not_and]
    exact fun hname hne => absurd hname.symm hne
  · rename_i hne
    rw [Option.bind_eq_some_iff]
    constructor
    · rintro ⟨name, hname, hfind⟩
      obtain ⟨hd, rfl⟩ := (find?_eq_some_iff hall).1 hfind
      exact ⟨hname, fun hempty => hne (hempty ▸ hname), hd⟩
    · rintro ⟨hname, -, hd⟩
      exact ⟨d.name, hname, find?_of_nodup hall hd⟩

/-- The ancestors among the classes not visited yet are those on the way up. The induction is that
of the walk; what it keeps is which classes are unvisited: those of other names than the visited
ones. -/
theorem climbs_ancestors {unvisited : List ClassDecl} {parent : Option String}
    (hall : (all.map (·.name)).Nodup) (hparent : c.inherits = parent) (hdistinct : unvisited.Nodup)
    (hunvisited : ∀ d, d ∈ unvisited ↔ d ∈ all ∧ d.name ∉ c.name :: seen) :
    Climbs (parent? all) seen c (c :: ancestors unvisited parent) := by
  fun_induction ancestors unvisited parent generalizing c seen with
  | case1 unvisited =>
    refine .stop fun d hd => ?_
    rw [parent?_eq_some_iff hall, hparent] at hd
    cases hd.1
  | case2 unvisited name hempty =>
    refine .stop fun d hd => ?_
    rw [parent?_eq_some_iff hall, hparent, Option.some.injEq] at hd
    exact absurd (hd.1 ▸ String.isEmpty_iff.1 hempty) hd.2.1
  | case3 unvisited name _ hnone =>
    refine .stop fun d hd => ?_
    rw [parent?_eq_some_iff hall, hparent, Option.some.injEq] at hd
    by_contra hnew
    have hmem := (hunvisited d).2 ⟨hd.2.2, hnew⟩
    simpa [hd.1] using List.find?_eq_none.1 hnone d hmem
  | case4 unvisited name hempty d hfind ih =>
    obtain ⟨hd, hnew⟩ := (hunvisited d).1 (List.mem_of_find?_eq_some hfind)
    have hname : d.name = name := by simpa using List.find?_some hfind
    refine .next (d := d) ?_ hnew (ih rfl (hdistinct.erase d) fun e => ?_)
    · rw [parent?_eq_some_iff hall, hname]
      exact ⟨hparent, by simpa [String.isEmpty_iff] using hempty, hd⟩
    · rw [hdistinct.mem_erase_iff, hunvisited, List.mem_cons (a := e.name) (b := d.name), not_or]
      constructor
      · rintro ⟨hne, he, hvisited⟩
        exact ⟨he, fun hsame => hne (List.inj_on_of_nodup_map hall he hd hsame), hvisited⟩
      · rintro ⟨he, hne, hvisited⟩
        exact ⟨fun hsame => hne (hsame ▸ rfl), he, hvisited⟩

theorem climbs_lineage (hall : (all.map (·.name)).Nodup) (c : ClassDecl) :
    Climbs (parent? all) [] c (c.lineage all) := by
  refine climbs_ancestors hall rfl (hall.of_map.filter _) fun d => ?_
  simp

theorem lineage_subset (hall : (all.map (·.name)).Nodup) (hc : c ∈ all) : c.lineage all ⊆ all :=
  (climbs_lineage hall c).subset hc fun _ _ h => ((parent?_eq_some_iff hall).1 h).2.2

theorem nodup_lineage (hall : (all.map (·.name)).Nodup) (c : ClassDecl) :
    ((c.lineage all).map (·.name)).Nodup :=
  ((climbs_lineage hall c).nodup List.not_mem_nil).1

theorem length_lineage_le (hall : (all.map (·.name)).Nodup) (hc : c ∈ all) :
    (c.lineage all).length ≤ all.length :=
  ((nodup_lineage hall c).of_map.subperm (lineage_subset hall hc)).length_le

end ClassDecl

/-! ## Properties of a lineage -/

/-- The declaration of the property with the given key. -/
def ClassDecl.declared? (c : ClassDecl) (k : Key) : Option PropertyDecl :=
  c.properties.find? (Key.of ·.name = k)

/-- The keys of the properties that a class declares itself. -/
def ClassDecl.propertyKeys (c : ClassDecl) : List Key := c.properties.map (Key.of ·.name)

theorem ClassDecl.declared?_eq_none_iff {c : ClassDecl} {k : Key} :
    c.declared? k = none ↔ ∀ p ∈ c.properties, Key.of p.name ≠ k := by
  simp [declared?]

namespace Flatten

variable {owner : String} {declared : List Key} {ps : List PropertyDecl} {row : List ClassDecl}
  {acc m : OrderedMap Key PropertyDecl}

theorem exists_addProperties_iff :
    (∃ m, addProperties owner declared ps acc = .ok m) ↔
      (ps.map (Key.of ·.name)).Nodup ∧ ∀ p ∈ ps, Key.of p.name ∉ declared := by
  induction ps generalizing declared acc with
  | nil => simp [addProperties]
  | cons p ps ih =>
    by_cases hp : Key.of p.name ∈ declared
    · simp [addProperties, hp]
    · rw [List.map_cons, List.nodup_cons, List.forall_mem_cons, addProperties, if_neg hp, ih]
      simp only [List.mem_cons, not_or, List.mem_map, not_exists, not_and]
      constructor
      · rintro ⟨hps, hrest⟩
        exact ⟨⟨fun q hq => (hrest q hq).1, hps⟩, hp, fun q hq => (hrest q hq).2⟩
      · rintro ⟨⟨hfirst, hps⟩, -, hrest⟩
        exact ⟨hps, fun q hq => ⟨hfirst q hq, hrest q hq⟩⟩

/-- The properties of a class come before those that were there. -/
theorem get?_addProperties (h : addProperties owner declared ps acc = .ok m) (k : Key) :
    m.get? k = (ps.find? (Key.of ·.name = k)).or (acc.get? k) := by
  induction ps generalizing declared acc with
  | nil =>
    cases h
    rfl
  | cons p ps ih =>
    simp only [addProperties] at h
    split at h
    · cases h
    · rw [ih h, OrderedMap.get?_insert]
      by_cases hk : Key.of p.name = k
      · -- the key is not declared again
        have hrest : ps.find? (Key.of ·.name = k) = none := by
          refine List.find?_eq_none.2 fun q hq hsame => ?_
          refine (exists_addProperties_iff.1 ⟨m, h⟩).2 q hq ?_
          rw [of_decide_eq_true hsame, hk]
          exact List.mem_cons_self
        simp [hk, hrest]
      · simp [hk]

theorem nodup_addProperties (hacc : acc.keys.Nodup)
    (h : addProperties owner declared ps acc = .ok m) : m.keys.Nodup := by
  induction ps generalizing declared acc with
  | nil =>
    cases h
    exact hacc
  | cons p ps ih =>
    simp only [addProperties] at h
    split at h
    · cases h
    · exact ih (OrderedMap.nodup_keys_insert hacc _ _) h

/-- A lineage is filled in exactly when none of its classes repeats a property. -/
theorem exists_properties_iff :
    (∃ m, properties row = .ok m) ↔ ∀ c ∈ row, c.propertyKeys.Nodup := by
  unfold properties
  generalize (OrderedMap.empty : OrderedMap Key PropertyDecl) = acc
  induction row generalizing acc with
  | nil => exact iff_of_true ⟨acc, rfl⟩ (by simp)
  | cons c row ih =>
    simp only [List.foldlM_cons, Outcome.bind_eq_ok, List.forall_mem_cons]
    constructor
    · rintro ⟨m, acc', hc, hrow⟩
      exact ⟨(exists_addProperties_iff.1 ⟨acc', hc⟩).1, (ih acc').1 ⟨m, hrow⟩⟩
    · rintro ⟨hc, hrow⟩
      obtain ⟨acc', hacc'⟩ : ∃ acc', addProperties c.name [] c.properties acc = .ok acc' :=
        exists_addProperties_iff.2 ⟨hc, by simp⟩
      obtain ⟨m, hm⟩ := (ih acc').2 hrow
      exact ⟨m, acc', hacc', hm⟩

theorem get?_foldlM_addProperties
    (h : row.foldlM (fun acc c => addProperties c.name [] c.properties acc) acc = .ok m) (k : Key) :
    m.get? k = (row.reverse.findSome? (·.declared? k)).or (acc.get? k) := by
  induction row generalizing acc with
  | nil =>
    cases h
    rfl
  | cons c row ih =>
    rw [List.foldlM_cons, Outcome.bind_eq_ok] at h
    obtain ⟨acc', hc, hrow⟩ := h
    rw [ih hrow, get?_addProperties hc, List.reverse_cons, List.findSome?_append,
      List.findSome?_singleton, Option.or_assoc]
    rfl

/-- **The nearest declaration counts**: filled in from the eldest class down, a key leads to its
declaration in the youngest class that declares it. -/
theorem get?_properties (h : properties row = .ok m) (k : Key) :
    m.get? k = row.reverse.findSome? (·.declared? k) := by
  rw [get?_foldlM_addProperties h, OrderedMap.get?_empty, Option.or_none]

theorem nodup_properties (h : properties row = .ok m) : m.keys.Nodup :=
  Outcome.foldlM_ok (P := fun m => m.keys.Nodup) (fun _ _ _ hacc h => nodup_addProperties hacc h)
    List.nodup_nil h

/-- A key leads to a property of that key. -/
theorem key_of_get?_properties (h : properties row = .ok m) {k : Key} {p : PropertyDecl}
    (hp : m.get? k = some p) : Key.of p.name = k := by
  rw [get?_properties h] at hp
  obtain ⟨c, -, hc⟩ := List.exists_of_findSome?_eq_some hp
  simpa using List.find?_some hc

end Flatten

/-! ## Properties of a loaded class -/

theorem PropertyKind.of_congr {type : String} {ks ks' es es' : List Key}
    (hks : ∀ k, k ∈ ks ↔ k ∈ ks') (hes : ∀ k, k ∈ es ↔ k ∈ es') :
    PropertyKind.of type ks es = PropertyKind.of type ks' es' := by
  simp only [PropertyKind.of, hks, hes]

/-- The property that a declaration makes: its type sorted into a kind by the keys of the classes
and of the enumerations. -/
def Property.ofDecl (classKeys enumerationKeys : List Key) (p : PropertyDecl) : Property :=
  ⟨p.name, .of p.type classKeys enumerationKeys, .of p.access, p.type⟩

theorem Roster.Registers.mem_owners_keys {r : Roster} {cs : List ClassDecl} (hr : r.Registers cs)
    (k : Key) : k ∈ r.owners.keys ↔ k ∈ cs.flatMap (·.keys) := by
  rw [← OrderedMap.contains_iff, OrderedMap.contains, Option.isSome_iff_exists, List.mem_flatMap]
  constructor
  · rintro ⟨v, hv⟩
    obtain ⟨c, hc, -, hk⟩ := (hr.owners k v).1 hv
    exact ⟨c, hc, hk⟩
  · rintro ⟨c, hc, hk⟩
    exact ⟨c.name, (hr.owners k c.name).2 ⟨c, hc, rfl, hk⟩⟩

theorem Roster.Registers.decls_eq {r : Roster} {cs : List ClassDecl} (hr : r.Registers cs) :
    r.decls = cs := by
  simp [decls, hr.members, Function.comp_def]

namespace ClassInfo

variable {r : Roster} {cs : List ClassDecl} {enumerationKeys : List Key} {d : ClassDecl}
  {plural : String} {c : ClassInfo}

theorem exists_ofMember_iff (hr : r.Registers cs) :
    (∃ c, ofMember r enumerationKeys (d, plural) = .ok c) ↔
      ∀ a ∈ d.lineage cs, a.propertyKeys.Nodup := by
  simp only [ofMember_ok_iff, hr.decls_eq]
  rw [exists_comm]
  simp only [exists_and_left, exists_eq, and_true, Flatten.exists_properties_iff, List.mem_reverse]

theorem property?_ofMember (hr : r.Registers cs)
    (h : ofMember r enumerationKeys (d, plural) = .ok c) (s : String) :
    c.property? s = ((d.lineage cs).findSome? (·.declared? (Key.of s))).map
      (.ofDecl (cs.flatMap (·.keys)) enumerationKeys) := by
  obtain ⟨decls, hdecls, rfl⟩ := ofMember_ok_iff.1 h
  have hkind : ∀ p : PropertyDecl, PropertyKind.of p.type r.owners.keys enumerationKeys =
      .of p.type (cs.flatMap (·.keys)) enumerationKeys :=
    fun p => PropertyKind.of_congr hr.mem_owners_keys fun _ => .rfl
  rw [property?, OrderedMap.get?_ofList_values (Flatten.nodup_properties hdecls)
    (fun k p => Flatten.key_of_get?_properties hdecls), Flatten.get?_properties hdecls,
    List.reverse_reverse, hr.decls_eq]
  simp only [hkind]
  rfl

end ClassInfo

namespace ClassTable

variable {cs : List ClassDecl} {enumerations : List String}

/-- **When classes load**: exactly when no two of them share a key and none repeats a property. -/
theorem exists_ofDecls_iff :
    (∃ t, ofDecls cs enumerations = .ok t) ↔
      (cs.Pairwise fun c d => c.keys.Disjoint d.keys) ∧ ∀ c ∈ cs, c.propertyKeys.Nodup := by
  constructor
  · rintro ⟨t, h⟩
    obtain ⟨r, hroster, -, hclasses⟩ := ofDecls_ok_iff.1 h
    have hr := Roster.registers_ofDecls hroster
    refine ⟨hr.apart, fun c hc => ?_⟩
    have hok := Outcome.exists_mapM_iff.1 ⟨_, hclasses⟩ _ (List.mem_map_of_mem hc)
    exact (ClassInfo.exists_ofMember_iff hr).1 hok c List.mem_cons_self
  · rintro ⟨hapart, hproperties⟩
    obtain ⟨r, hroster⟩ := Roster.exists_ofDecls_iff.2 hapart
    have hr := Roster.registers_ofDecls hroster
    obtain ⟨classes, hclasses⟩ : ∃ classes, (cs.map fun d => (d, Roster.pluralOf d)).mapM
        (ClassInfo.ofMember r (enumerations.map Key.of)) = .ok classes := by
      refine Outcome.exists_mapM_iff.2 fun m hm => ?_
      obtain ⟨d, hd, rfl⟩ := List.mem_map.1 hm
      -- all ancestors are among the declared classes
      refine (ClassInfo.exists_ofMember_iff hr).2 fun a ha => hproperties a ?_
      exact ClassDecl.lineage_subset (Roster.nodup_names hapart) hd ha
    exact ⟨⟨classes, r.owners⟩, ofDecls_ok_iff.2 ⟨r, hroster, rfl, hclasses⟩⟩

/-- Classes of which none repeats a property can fail to load in the first pass only. -/
theorem ofDecls_eq_error {f : Fault} (hproperties : ∀ c ∈ cs, c.propertyKeys.Nodup)
    (h : ofDecls cs enumerations = .error f) : Roster.ofDecls cs = .error f := by
  cases hroster : Roster.ofDecls cs with
  | ok r =>
    obtain ⟨t, ht⟩ : ∃ t, ofDecls cs enumerations = .ok t :=
      exists_ofDecls_iff.2 ⟨Roster.exists_ofDecls_iff.1 ⟨r, hroster⟩, hproperties⟩
    rw [ht] at h
    cases h
  | error f' =>
    have hfails : ofDecls cs enumerations = .error f' := by
      rw [ofDecls, hroster]
      rfl
    rw [h] at hfails
    rw [Except.error.inj hfails]

end ClassTable

/-- **Properties are inherited from the nearest class that declares them**: the way up from a
declared class visits each class at most once, and the loaded class has a property under a name
exactly when a class on that way declares one, the first such declaration being the one that counts.
-/
theorem ClassRegistry.properties_inherited {cs : List ClassDecl} {enumerations : List String}
    {r : ClassRegistry} (h : ClassRegistry.empty.load cs enumerations = .ok r) :
    List.Forall₂ (fun d c => c.name = d.name ∧
      d.Climbs (ClassDecl.parent? cs) [] (d.lineage cs) ∧
      (d.lineage cs).length ≤ cs.length ∧ ((d.lineage cs).map (·.name)).Nodup ∧
      ∀ s, c.property? s = ((d.lineage cs).findSome? (·.declared? (Key.of s))).map
          (.ofDecl (cs.flatMap (·.keys)) (enumerations.map Key.of)) ∧
        (c.property? s = none ↔
          ∀ a ∈ d.lineage cs, ∀ p ∈ a.properties, Key.of p.name ≠ Key.of s)) cs r.list := by
  obtain ⟨t, ht, rfl⟩ := load_ok_iff.1 h
  obtain ⟨r, hr, -, hclasses⟩ := ClassTable.exists_roster ht
  have hnames := Roster.nodup_names hr.apart
  refine hclasses.imp fun d c ⟨hd, hc⟩ => ?_
  have hproperty := ClassInfo.property?_ofMember hr hc
  refine ⟨(ClassInfo.name_ofMember hc).1, ClassDecl.climbs_lineage hnames d,
    ClassDecl.length_lineage_le hnames hd, ClassDecl.nodup_lineage hnames d,
    fun s => ⟨hproperty s, ?_⟩⟩
  rw [hproperty s, Option.map_eq_none_iff, List.findSome?_eq_none_iff]
  exact forall₂_congr fun a _ => ClassDecl.declared?_eq_none_iff

/-- A file track has its name from the track, which is nearer than the item, and its kind from the
item; the track that the item inherits from in turn is not visited again. -/
theorem ClassRegistry.properties_inherited_file_track :
    ∃ r c, ClassRegistry.empty.load catalogue ["item kind"] = .ok r ∧ c ∈ r.list ∧
      c.name = "file track" ∧
      c.property? "NAME" = some ⟨"Name", .text, .readOnly, "unicode text"⟩ ∧
      c.property? "kind" = some ⟨"kind", .enumerated, .readOnly, "item kind"⟩ ∧
      c.property? "duration" = none := by
  obtain ⟨r, hr⟩ := exists_loaded_catalogue
  obtain ⟨c, hc, hname, -, -, -, hproperty⟩ := Outcome.exists_right_of_mem (properties_inherited hr)
    (a := ⟨"file track", none, some "track", [⟨"location", "file", "rw"⟩], ["folder"]⟩)
    (by decide)
  refine ⟨r, c, hr, hc, hname, ?_, ?_, ?_⟩
  · rw [(hproperty _).1]
    decide +kernel
  · rw [(hproperty _).1]
    decide +kernel
  · rw [(hproperty _).1]
    decide +kernel

/-! ## Parents without a name -/

/-- A playlist whose parent is the class of the empty name. -/
def nameless : List ClassDecl := [
  ⟨"playlist", none, some "", [], []⟩,
  ⟨"", none, none, [⟨"duration", "integer", "r"⟩], ["track"]⟩,
  ⟨"track", none, none, [], []⟩]

theorem climbs_nameless :
    ClassDecl.Climbs (ClassDecl.namedParent? nameless) [] ⟨"playlist", none, some "", [], []⟩
      (nameless.take 2) := by
  refine .next (d := ⟨"", none, none, [⟨"duration", "integer", "r"⟩], ["track"]⟩) (by decide)
    (by decide) (.stop fun d hd => ?_)
  cases hd

/-- A class does not inherit from the class of the empty name: cut only at repeated and unknown
names, the way up from the playlist leads to the duration, but the playlist has none. -/
theorem ClassRegistry.nameless_property_not_inherited :
    ∃ r c d row, ClassRegistry.empty.load nameless [] = .ok r ∧ r.lookup? "playlist" = some c ∧
      d ∈ nameless ∧ d.name = c.name ∧ d.Climbs (ClassDecl.namedParent? nameless) [] row ∧
      (row.findSome? (·.declared? (Key.of "duration"))).isSome ∧ c.property? "duration" = none := by
  have hlookup : ((ClassRegistry.empty.load nameless []).toOption.bind fun r =>
      (r.lookup? "playlist").map fun c => (c.name, c.property? "duration")) =
      some ("playlist", none) := by decide +kernel
  obtain ⟨r, hr, hlookup⟩ := Option.bind_eq_some_iff.1 hlookup
  obtain ⟨c, hc, hproperty⟩ := Option.map_eq_some_iff.1 hlookup
  obtain ⟨hname, hproperty⟩ := Prod.mk.inj hproperty
  exact ⟨r, c, ⟨"playlist", none, some "", [], []⟩, nameless.take 2, Outcome.toOption_eq_some.1 hr,
    hc, by decide, hname.symm, climbs_nameless, by decide +kernel, hproperty⟩

end ScriptGateway
