import Mathlib.Data.List.Induction
import ScriptGateway.Proofs.Schema.Inheritance

/-!
# Element classes

A class contains elements of the classes that are named in its lineage. The second pass enters each
of them under both of its keys; since a key has one owner, no element class takes a key from another
one, and a key leads to its owner exactly when the owner is named
(`Roster.Registers.get?_elementKeys`). Looking up an element is therefore looking up a class that
the lineage names (`ClassTable.Indexed.elementClass?_eq_some_iff`). Main statement:
`ClassRegistry.elementClass?_listed`.
-/

set_option autoImplicit false

namespace ScriptGateway

/-! ## The element names of a lineage -/

theorem Flatten.mem_elements {row : List ClassDecl} {e : String} :
    e ∈ elements row ↔ ∃ a ∈ row, e ∈ a.elements := by
  rw [elements, foldl_addNew, List.nil_append, List.mem_eraseDups, ← List.mem_flatMap]
  simp [List.removeAll]

/-! ## The keys of the elements -/

namespace Roster.Registers

variable {r : Roster} {cs : List ClassDecl} {d : ClassDecl}

theorem elementKeys_concat_known (hr : r.Registers cs) (names : List String) {e : String}
    (hd : d ∈ cs) (he : Key.of e ∈ d.keys) :
    ClassInfo.elementKeys r (names ++ [e]) =
      ((ClassInfo.elementKeys r names).insert (Key.of d.name) d.name).insert
        (Key.of (pluralOf d)) d.name := by
  simp only [ClassInfo.elementKeys, List.foldl_append, List.foldl_cons, List.foldl_nil,
    (hr.owner_iff hd).2 he, hr.member?_name hd]

theorem elementKeys_concat_unknown (r : Roster) (names : List String) {e : String}
    (he : r.owners.get? (Key.of e) = none) :
    ClassInfo.elementKeys r (names ++ [e]) = ClassInfo.elementKeys r names := by
  simp only [ClassInfo.elementKeys, List.foldl_append, List.foldl_cons, List.foldl_nil, he]

/-- **Keys of elements**: a key leads to its owner exactly when the owner is named. The induction is
on the names, the last one first. -/
theorem get?_elementKeys (hr : r.Registers cs) (names : List String) (k : Key) (v : String) :
    (ClassInfo.elementKeys r names).get? k = some v ↔
      r.owners.get? k = some v ∧ ∃ e ∈ names, r.owners.get? (Key.of e) = some v := by
  induction names using List.reverseRecOn with
  | nil => simp [ClassInfo.elementKeys]
  | append_singleton names e ih =>
    cases hown : r.owners.get? (Key.of e) with
    | none =>
      rw [elementKeys_concat_unknown r names hown, ih]
      simp [or_and_right, exists_or, hown]
    | some owner =>
      obtain ⟨d, hd, rfl, he⟩ := (hr.owners _ _).1 hown
      rw [hr.elementKeys_concat_known names hd he, OrderedMap.get?_insert, OrderedMap.get?_insert]
      by_cases hk : r.owners.get? k = some d.name
      · -- both keys of the class were written just now
        have hget : (if Key.of (pluralOf d) = k then some d.name
            else if Key.of d.name = k then some d.name
            else (ClassInfo.elementKeys r names).get? k) = some d.name := by
          rcases ClassDecl.mem_keys.1 ((hr.owner_iff hd).1 hk) with rfl | rfl <;> simp
        rw [hget, hk]
        refine ⟨fun hv => ⟨hv, e, by simp, hown.trans hv⟩, fun h => h.1⟩
      · have hother : k ∉ d.keys := fun hmem => hk ((hr.owner_iff hd).2 hmem)
        rw [ClassDecl.mem_keys, not_or] at hother
        rw [if_neg (Ne.symm hother.2), if_neg (Ne.symm hother.1), ih]
        refine and_congr_right fun hv => ?_
        -- the owner of the key is another class than the one just named
        have hne : r.owners.get? (Key.of e) ≠ some v := fun hsame => hk (hv.trans (hsame ▸ hown))
        simp [or_and_right, exists_or, hne]

end Roster.Registers

theorem ClassInfo.nodup_elementKeys (r : Roster) (names : List String) :
    (elementKeys r names).keys.Nodup := by
  refine List.foldlRecOn (motive := fun m : OrderedMap Key String => m.keys.Nodup) names _
    List.nodup_nil fun acc hacc e _ => ?_
  split
  · exact hacc
  · split
    · exact hacc
    · exact OrderedMap.nodup_keys_insert (OrderedMap.nodup_keys_insert hacc _ _) _ _

/-! ## Looking up elements -/

namespace ClassTable

variable {cs : List ClassDecl} {enumerations : List String} {t : ClassTable} {r : Roster}
  {d : ClassDecl} {o c : ClassInfo}

theorem get?_elements (hr : r.Registers cs) (howners : t.owners = r.owners)
    (h : ClassInfo.ofMember r (enumerations.map Key.of) (d, Roster.pluralOf d) = .ok o)
    (k : Key) (v : String) :
    o.elements.get? k = some v ↔ t.owners.get? k = some v ∧
      ∃ a ∈ d.lineage cs, ∃ e ∈ a.elements, t.owners.get? (Key.of e) = some v := by
  obtain ⟨decls, -, rfl⟩ := ClassInfo.ofMember_ok_iff.1 h
  rw [hr.get?_elementKeys, howners, hr.decls_eq]
  refine and_congr_right fun _ => ?_
  simp only [Flatten.mem_elements, List.mem_reverse]
  constructor
  · rintro ⟨e, ⟨a, ha, he⟩, hv⟩
    exact ⟨a, ha, e, he, hv⟩
  · rintro ⟨a, ha, e, he, hv⟩
    exact ⟨e, ⟨a, ha, he⟩, hv⟩

/-- An element is looked up as a class is, among the classes that the lineage names. -/
theorem Indexed.elementClass?_eq_some_iff (ht : t.Indexed) (hr : r.Registers cs)
    (howners : t.owners = r.owners)
    (h : ClassInfo.ofMember r (enumerations.map Key.of) (d, Roster.pluralOf d) = .ok o)
    (s : String) :
    t.elementClass? o s = some c ↔
      t.lookup? s = some c ∧ ∃ a ∈ d.lineage cs, ∃ e ∈ a.elements, Key.of e ∈ c.keys := by
  rw [ht.lookup?_eq_some_iff]
  simp only [elementClass?, Option.bind_eq_some_iff, ht.named?_eq_some_iff,
    get?_elements hr howners h]
  constructor
  · rintro ⟨v, ⟨hs, a, ha, e, he, hv⟩, hc, rfl⟩
    exact ⟨⟨hc, (ht.owner_iff hc).1 hs⟩, a, ha, e, he, (ht.owner_iff hc).1 hv⟩
  · rintro ⟨⟨hc, hs⟩, a, ha, e, he, hk⟩
    exact ⟨c.name, ⟨(ht.owner_iff hc).2 hs, a, ha, e, he, (ht.owner_iff hc).2 hk⟩, hc, rfl⟩

end ClassTable

/-- **Elements are classes that the lineage names**: a listed class contains elements of a class
under a name exactly when the name finds that class and the lineage names it, by its singular or its
plural in any spelling. So both names of a named class lead to it, and no other element is there. -/
theorem ClassRegistry.elementClass?_listed {cs : List ClassDecl} {enumerations : List String}
    {r : ClassRegistry} (h : ClassRegistry.empty.load cs enumerations = .ok r) :
    ∃ t, r.table? = some t ∧ List.Forall₂ (fun d o => o.name = d.name ∧
      d.Climbs (ClassDecl.parent? cs) [] (d.lineage cs) ∧
      (∀ s c, t.elementClass? o s = some c ↔ r.lookup? s = some c ∧
        ∃ a ∈ d.lineage cs, ∃ e ∈ a.elements,
          Key.of e = Key.of c.name ∨ Key.of e = Key.of c.plural) ∧
      (∀ a ∈ d.lineage cs, ∀ e ∈ a.elements, ∀ c, r.lookup? e = some c →
        t.elementClass? o c.name = some c ∧ t.elementClass? o c.plural = some c) ∧
      ∀ k v, o.elements.get? k = some v →
        ∃ a ∈ d.lineage cs, ∃ e ∈ a.elements, ∃ c, r.lookup? e = some c ∧ c.name = v)
      cs r.list := by
  obtain ⟨t, ht, rfl⟩ := load_ok_iff.1 h
  obtain ⟨r, hr, howners, hclasses⟩ := ClassTable.exists_roster ht
  have hindexed := ClassTable.indexed_ofDecls ht
  refine ⟨t, rfl, hclasses.imp fun d o ⟨_, ho⟩ => ?_⟩
  have helement := fun s c => hindexed.elementClass?_eq_some_iff (c := c) hr howners ho s
  refine ⟨(ClassInfo.name_ofMember ho).1, ClassDecl.climbs_lineage (Roster.nodup_names hr.apart) d,
    fun s c => ?_, fun a ha e he c hc => ?_, fun k v hv => ?_⟩
  · simp only [← ClassInfo.mem_keys]
    exact helement s c
  · obtain ⟨hlisted, hk⟩ := hindexed.lookup?_eq_some_iff.1 hc
    have hfound : ∀ s, Key.of s ∈ c.keys → t.elementClass? o s = some c := fun s hs =>
      (helement s c).2 ⟨hindexed.lookup?_eq_some_iff.2 ⟨hlisted, hs⟩, a, ha, e, he, hk⟩
    exact ⟨hfound _ c.singular_mem_keys, hfound _ c.plural_mem_keys⟩
  · obtain ⟨-, a, ha, e, he, howner⟩ := (ClassTable.get?_elements hr howners ho k v).1 hv
    obtain ⟨c, hc, rfl, hk⟩ := (hindexed.owners _ _).1 howner
    exact ⟨a, ha, e, he, c, hindexed.lookup?_eq_some_iff.2 ⟨hc, hk⟩, rfl⟩

/-- A playlist names the file tracks in another spelling. The folders that it names are no class. -/
theorem ClassRegistry.elementClass?_listed_playlist :
    ∃ r t o c, ClassRegistry.empty.load catalogue ["item kind"] = .ok r ∧ r.table? = some t ∧
      o ∈ r.list ∧ o.name = "playlist" ∧ c.name = "file track" ∧ c.plural = "file tracks" ∧
      t.elementClass? o "file track" = some c ∧ t.elementClass? o "file tracks" = some c ∧
      t.elementClass? o "folder" = none := by
  have hlookup : ((ClassRegistry.empty.load catalogue ["item kind"]).toOption.bind fun r =>
      (r.lookup? "fileTrack").map fun c => (c.name, c.plural, (r.lookup? "folder").isNone)) =
      some ("file track", "file tracks", true) := by decide +kernel
  obtain ⟨r, hr, hlookup⟩ := Option.bind_eq_some_iff.1 hlookup
  obtain ⟨c, hc, hnames⟩ := Option.map_eq_some_iff.1 hlookup
  obtain ⟨hname, hnames⟩ := Prod.mk.inj hnames
  obtain ⟨hplural, hfolder⟩ := Prod.mk.inj hnames
  have hload := Outcome.toOption_eq_some.1 hr
  obtain ⟨t, ht, hlisted⟩ := elementClass?_listed hload
  obtain ⟨o, ho, honame, -, helement, hboth, -⟩ := Outcome.exists_right_of_mem hlisted
    (a := ⟨"playlist", some "lists", some "container", [⟨"parent", "playlist", "r"⟩],
      ["lists", "fileTrack", "folder"]⟩) (by decide)
  obtain ⟨hsingular, hmany⟩ :=
    hboth _ List.mem_cons_self "fileTrack" (List.mem_cons_of_mem _ List.mem_cons_self) c hc
  rw [hname] at hsingular
  rw [hplural] at hmany
  refine ⟨r, t, o, c, hload, ht, ho, honame, hname, hplural, hsingular, hmany, ?_⟩
  refine Option.eq_none_iff_forall_ne_some.2 fun c' hc' => ?_
  have hfound := ((helement _ _).1 hc').1
  rw [Option.isNone_iff_eq_none.1 hfolder] at hfound
  cases hfound

/-- The elements of the class of the empty name are not inherited: cut only at repeated and unknown
names, the way up from the playlist leads to the tracks, but the playlist has none. -/
theorem ClassRegistry.nameless_element_not_inherited :
    ∃ r t o c d row, ClassRegistry.empty.load nameless [] = .ok r ∧ r.table? = some t ∧
      r.lookup? "playlist" = some o ∧ r.lookup? "track" = some c ∧ d ∈ nameless ∧
      d.name = o.name ∧ d.Climbs (ClassDecl.namedParent? nameless) [] row ∧
      (∃ a ∈ row, ∃ e ∈ a.elements, Key.of e = Key.of c.name) ∧
      t.elementClass? o "track" = none := by
  have hlookup : ((ClassRegistry.empty.load nameless []).toOption.bind fun r =>
      r.table?.bind fun t => (r.lookup? "playlist").bind fun o => (r.lookup? "track").map fun c =>
        (o.name, c.name, (t.elementClass? o "track").isNone)) =
      some ("playlist", "track", true) := by decide +kernel
  obtain ⟨r, hr, hlookup⟩ := Option.bind_eq_some_iff.1 hlookup
  obtain ⟨t, ht, hlookup⟩ := Option.bind_eq_some_iff.1 hlookup
  obtain ⟨o, ho, hlookup⟩ := Option.bind_eq_some_iff.1 hlookup
  obtain ⟨c, hc, hnames⟩ := Option.map_eq_some_iff.1 hlookup
  obtain ⟨honame, hnames⟩ := Prod.mk.inj hnames
  obtain ⟨hcname, hnone⟩ := Prod.mk.inj hnames
  refine ⟨r, t, o, c, ⟨"playlist", none, some "", [], []⟩, nameless.take 2,
    Outcome.toOption_eq_some.1 hr, ht, ho, hc, by decide, honame.symm, climbs_nameless, ?_,
    Option.isNone_iff_eq_none.1 hnone⟩
  exact ⟨⟨"", none, none, [⟨"duration", "integer", "r"⟩], ["track"]⟩, by decide, "track", by decide,
    by rw [hcname]⟩

end ScriptGateway
