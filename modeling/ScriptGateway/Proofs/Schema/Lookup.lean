import ScriptGateway.Proofs.Schema.Roster

/-!
# Finding classes

A loaded table lists one class for each declared one, in the order of the declarations
(`ClassTable.exists_roster`), and no two listed classes share a key (`ClassTable.Indexed`). A name
therefore finds the class that has its key, if one has, and no other:
`ClassTable.named?_eq_some_iff` for the name itself, `ClassTable.lookup?_eq_some_iff` for a spelling
of the singular or the plural. Main statement: `ClassRegistry.lookup?_listed`.
-/

set_option autoImplicit false

namespace ScriptGateway

/-- The keys of a class in the table, its singular one first. -/
def ClassInfo.keys (c : ClassInfo) : List Key := [Key.of c.name, Key.of c.plural]

theorem ClassInfo.mem_keys {c : ClassInfo} {k : Key} :
    k ∈ c.keys ↔ k = Key.of c.name ∨ k = Key.of c.plural := by
  simp [keys]

theorem ClassInfo.singular_mem_keys (c : ClassInfo) : Key.of c.name ∈ c.keys :=
  mem_keys.2 (.inl rfl)

theorem ClassInfo.plural_mem_keys (c : ClassInfo) : Key.of c.plural ∈ c.keys :=
  mem_keys.2 (.inr rfl)

/-- What the second pass makes of a member of the roster. -/
theorem ClassInfo.ofMember_ok_iff {r : Roster} {enumerationKeys : List Key}
    {m : ClassDecl × String} {c : ClassInfo} :
    ofMember r enumerationKeys m = .ok c ↔
      ∃ decls, Flatten.properties (m.1.lineage r.decls).reverse = .ok decls ∧
        c = {
          name := m.1.name
          plural := m.2
          properties := .ofList (decls.values.map fun p =>
            (Key.of p.name,
              ⟨p.name, .of p.type r.owners.keys enumerationKeys, .of p.access, p.type⟩))
          elements := elementKeys r (Flatten.elements (m.1.lineage r.decls).reverse)
          inherits := m.1.inherits } := by
  simp only [ofMember, Outcome.bind_eq_ok, pure, Except.pure, Except.ok.injEq]
  exact exists_congr fun decls => and_congr_right fun _ => eq_comm

theorem ClassInfo.name_ofMember {r : Roster} {enumerationKeys : List Key} {m : ClassDecl × String}
    {c : ClassInfo} (h : ofMember r enumerationKeys m = .ok c) :
    c.name = m.1.name ∧ c.plural = m.2 := by
  obtain ⟨decls, -, rfl⟩ := ofMember_ok_iff.1 h
  exact ⟨rfl, rfl⟩

/-! ## The table and its roster -/

namespace ClassTable

variable {cs : List ClassDecl} {enumerations : List String} {t : ClassTable} {c : ClassInfo}

theorem ofDecls_ok_iff :
    ofDecls cs enumerations = .ok t ↔
      ∃ r, Roster.ofDecls cs = .ok r ∧ t.owners = r.owners ∧
        (cs.map fun d => (d, Roster.pluralOf d)).mapM
          (ClassInfo.ofMember r (enumerations.map Key.of)) = .ok t.classes := by
  simp only [ofDecls, Outcome.bind_eq_ok, pure, Except.pure, Except.ok.injEq]
  refine exists_congr fun r => and_congr_right fun hr => ?_
  rw [(Roster.registers_ofDecls hr).members]
  constructor
  · rintro ⟨classes, hclasses, rfl⟩
    exact ⟨rfl, hclasses⟩
  · rintro ⟨howners, hclasses⟩
    exact ⟨t.classes, hclasses, by rw [← howners]⟩

/-- A loaded table holds what the second pass makes of the declared classes, one after the other. -/
theorem exists_roster (h : ofDecls cs enumerations = .ok t) :
    ∃ r, r.Registers cs ∧ t.owners = r.owners ∧
      List.Forall₂ (fun d c => d ∈ cs ∧
        ClassInfo.ofMember r (enumerations.map Key.of) (d, Roster.pluralOf d) = .ok c)
        cs t.classes := by
  obtain ⟨r, hr, howners, hclasses⟩ := ofDecls_ok_iff.1 h
  exact ⟨r, Roster.registers_ofDecls hr, howners, (List.forall₂_and_left _ _).2
    ⟨fun _ hd => hd, List.forall₂_map_left_iff.1 (Outcome.mapM_ok hclasses)⟩⟩

theorem listed (h : ofDecls cs enumerations = .ok t) :
    List.Forall₂ (fun d c => c.name = d.name ∧ c.plural = Roster.pluralOf d) cs t.classes := by
  obtain ⟨r, -, -, hclasses⟩ := exists_roster h
  exact hclasses.imp fun d c hc => ClassInfo.name_ofMember hc.2

/-! ## Keys and classes -/

/-- No two classes share a key, and a key belongs to the class that has it. -/
structure Indexed (t : ClassTable) : Prop where
  apart : t.classes.Pairwise fun c d => c.keys.Disjoint d.keys
  owners : ∀ k v, t.owners.get? k = some v ↔ ∃ c ∈ t.classes, c.name = v ∧ k ∈ c.keys

theorem indexed_ofDecls (h : ofDecls cs enumerations = .ok t) : t.Indexed := by
  obtain ⟨r, hr, howners, -⟩ := exists_roster h
  have hkeys : cs.map (fun d => (d.name, d.keys)) = t.classes.map fun c => (c.name, c.keys) := by
    rw [← List.forall₂_eq_eq_eq, List.forall₂_map_left_iff, List.forall₂_map_right_iff]
    refine (listed h).imp fun d c hc => ?_
    simp only [ClassDecl.keys, ClassInfo.keys, hc.1, hc.2]
  refine ⟨?_, fun k v => ?_⟩
  · have hapart : (cs.map fun d => (d.name, d.keys)).Pairwise fun x y => x.2.Disjoint y.2 :=
      List.pairwise_map.2 hr.apart
    rw [hkeys, List.pairwise_map] at hapart
    exact hapart
  · have hmem : ∀ x, (∃ d ∈ cs, (d.name, d.keys) = x) ↔ ∃ c ∈ t.classes, (c.name, c.keys) = x := by
      intro x
      rw [← List.mem_map, hkeys, List.mem_map]
    rw [howners, hr.owners]
    constructor
    · rintro ⟨d, hd, rfl, hk⟩
      obtain ⟨c, hc, heq⟩ := (hmem _).1 ⟨d, hd, rfl⟩
      obtain ⟨hname, hsame⟩ := Prod.mk.inj heq
      exact ⟨c, hc, hname, hsame ▸ hk⟩
    · rintro ⟨c, hc, rfl, hk⟩
      obtain ⟨d, hd, heq⟩ := (hmem _).2 ⟨c, hc, rfl⟩
      obtain ⟨hname, hsame⟩ := Prod.mk.inj heq
      exact ⟨d, hd, hname, hsame ▸ hk⟩

namespace Indexed

theorem nodup_names (ht : t.Indexed) : (t.classes.map (·.name)).Nodup := by
  refine List.pairwise_map.2 (ht.apart.imp fun {c d} hapart hname => ?_)
  exact hapart c.singular_mem_keys (hname ▸ d.singular_mem_keys)

theorem named?_eq_some_iff (ht : t.Indexed) {name : String} :
    t.named? name = some c ↔ c ∈ t.classes ∧ c.name = name :=
  find?_eq_some_iff ht.nodup_names

/-- The owner of a key is a class of the table. -/
theorem exists_named? (ht : t.Indexed) {k : Key} {name : String}
    (h : t.owners.get? k = some name) : ∃ c, t.named? name = some c := by
  obtain ⟨c, hc, hname, -⟩ := (ht.owners k name).1 h
  exact ⟨c, ht.named?_eq_some_iff.2 ⟨hc, hname⟩⟩

theorem owner_iff (ht : t.Indexed) (hc : c ∈ t.classes) {k : Key} :
    t.owners.get? k = some c.name ↔ k ∈ c.keys := by
  rw [ht.owners]
  constructor
  · rintro ⟨d, hd, hname, hk⟩
    rwa [List.inj_on_of_nodup_map ht.nodup_names hd hc hname] at hk
  · intro hk
    exact ⟨c, hc, rfl, hk⟩

theorem lookup?_eq_some_iff (ht : t.Indexed) {s : String} :
    t.lookup? s = some c ↔ c ∈ t.classes ∧ Key.of s ∈ c.keys := by
  simp only [lookup?, Option.bind_eq_some_iff, ht.named?_eq_some_iff]
  constructor
  · rintro ⟨name, hname, hc, rfl⟩
    exact ⟨hc, (ht.owner_iff hc).1 hname⟩
  · rintro ⟨hc, hk⟩
    exact ⟨c.name, (ht.owner_iff hc).2 hk, hc, rfl⟩

end Indexed

end ClassTable

/-! ## Loaded registries -/

namespace ClassRegistry

variable {cs : List ClassDecl} {enumerations : List String} {r : ClassRegistry}

theorem load_ok_iff :
    empty.load cs enumerations = .ok r ↔
      ∃ t, ClassTable.ofDecls cs enumerations = .ok t ∧ r = ⟨some t⟩ := by
  have hload : empty.load cs enumerations =
      (ClassTable.ofDecls cs enumerations).map fun t => ⟨some t⟩ := rfl
  rw [hload, Outcome.map_eq_ok]
  exact exists_congr fun t => and_congr_right fun _ => eq_comm

/-- **Names find their class**: the declared classes are listed one by one in their order, no two of
them share a key, and a name finds a class exactly when its key is the singular or the plural key of
a listed one. No key leads to a class that is not there. -/
theorem lookup?_listed (h : empty.load cs enumerations = .ok r) :
    List.Forall₂ (fun d c => c.name = d.name ∧ c.plural = Roster.pluralOf d) cs r.list ∧
      (∀ s c, r.lookup? s = some c ↔
        c ∈ r.list ∧ (Key.of s = Key.of c.name ∨ Key.of s = Key.of c.plural)) ∧
      (r.list.Pairwise fun c d => c.keys.Disjoint d.keys) ∧
      ∃ t, r.table? = some t ∧
        ∀ k name, t.owners.get? k = some name → ∃ c, t.named? name = some c := by
  obtain ⟨t, ht, rfl⟩ := load_ok_iff.1 h
  have hindexed := ClassTable.indexed_ofDecls ht
  refine ⟨ClassTable.listed ht, fun s c => ?_, hindexed.apart, t, rfl, fun k name => ?_⟩
  · rw [← ClassInfo.mem_keys]
    exact hindexed.lookup?_eq_some_iff
  · exact hindexed.exists_named?

/-- Classes of a media library: the items and tracks inherit from each other, and the playlists from
a class that is not there. -/
def catalogue : List ClassDecl := [
  ⟨"application", none, none, [⟨"name", "text", "r"⟩], ["playlist"]⟩,
  ⟨"item", none, some "track", [⟨"name", "text", "rw"⟩, ⟨"kind", "item kind", "r"⟩], ["artwork"]⟩,
  ⟨"track", none, some "item", [⟨"Name", "unicode text", "r"⟩], []⟩,
  ⟨"file track", none, some "track", [⟨"location", "file", "rw"⟩], ["folder"]⟩,
  ⟨"playlist", some "lists", some "container", [⟨"parent", "playlist", "r"⟩],
    ["lists", "fileTrack", "folder"]⟩,
  ⟨"artwork", none, none, [], []⟩]

theorem exists_loaded_catalogue :
    ∃ r, ClassRegistry.empty.load catalogue ["item kind"] = .ok r := by
  have hok : (ClassRegistry.empty.load catalogue ["item kind"]).toOption.isSome = true := by
    decide +kernel
  obtain ⟨r, hr⟩ := Option.isSome_iff_exists.1 hok
  exact ⟨r, Outcome.toOption_eq_some.1 hr⟩

theorem lookup?_listed_file_track :
    ∃ r c, ClassRegistry.empty.load catalogue ["item kind"] = .ok r ∧ c ∈ r.list ∧
      c.name = "file track" ∧ r.lookup? "fileTracks" = some c ∧
      r.lookup? "FILE_track" = some c := by
  obtain ⟨r, hr⟩ := exists_loaded_catalogue
  obtain ⟨hlisted, hlookup, -, -⟩ := lookup?_listed hr
  obtain ⟨c, hc, hname, hplural⟩ := Outcome.exists_right_of_mem hlisted
    (a := ⟨"file track", none, some "track", [⟨"location", "file", "rw"⟩], ["folder"]⟩)
    (by decide)
  refine ⟨r, c, hr, hc, hname, (hlookup _ _).2 ⟨hc, .inr ?_⟩, (hlookup _ _).2 ⟨hc, .inl ?_⟩⟩
  · rw [hplural]
    decide +kernel
  · rw [hname]
    decide +kernel

end ClassRegistry

end ScriptGateway
