import ScriptGateway.Proofs.Dictionary.Merging
import ScriptGateway.Proofs.Schema.Inheritance

/-!
# Names in one spelling

The reader of a scripting definition merges what has exactly the same name, while the table of
classes tells names apart by their keys. Both agree on a document that has one spelling for each
class and for each property of a class (`Definition.OneSpelling`).

* `ClassDecl.nodup_propertyKeys_joined_iff`: a merged class repeats no property exactly when its
  declarations have one spelling for each.
* `Dictionary.Distinct.not_isRepeat`: distinct classes are never turned away as repeated ones.
* `Dictionary.distinct_of_load`: only distinct classes load.

Main statement: `Dictionary.distinct_ofRoot_iff_oneSpelling`.
-/

set_option autoImplicit false

namespace ScriptGateway

open Markup Definition

/-! ## The properties of a merged class -/

namespace ClassDecl

variable {earlier : List PropertyDecl} {ds : List ClassDecl}

theorem mem_freshProperties {name : String} :
    name ∈ (freshProperties earlier ds).map (·.name) ↔
      name ∈ (ds.flatMap (·.properties)).map (·.name) ∧ name ∉ earlier.map (·.name) := by
  induction ds generalizing earlier with
  | nil => simp [freshProperties]
  | cons d later ih =>
    have hkept : name ∈ (d.properties.filter fun p => ∀ q ∈ earlier, q.name ≠ p.name).map (·.name) ↔
        name ∈ d.properties.map (·.name) ∧ name ∉ earlier.map (·.name) := by
      simp only [List.mem_map, List.mem_filter, decide_eq_true_eq, not_exists, not_and]
      constructor
      · rintro ⟨p, ⟨hp, hnew⟩, rfl⟩
        exact ⟨⟨p, hp, rfl⟩, hnew⟩
      · rintro ⟨⟨p, hp, rfl⟩, hnew⟩
        exact ⟨p, ⟨hp, hnew⟩, rfl⟩
    rw [freshProperties, List.map_append, List.mem_append, hkept, ih, List.map_append,
      List.mem_append, List.flatMap_cons, List.map_append, List.mem_append]
    tauto

theorem nodup_freshProperties (h : ∀ d ∈ ds, (d.properties.map (·.name)).Nodup) :
    ((freshProperties earlier ds).map (·.name)).Nodup := by
  induction ds generalizing earlier with
  | nil => exact List.nodup_nil
  | cons d later ih =>
    obtain ⟨hd, hlater⟩ := List.forall_mem_cons.1 h
    rw [freshProperties, List.map_append]
    refine List.Nodup.append ((List.filter_sublist.map _).nodup hd) (ih hlater)
      fun name hnow hlater => ?_
    have hold := (mem_freshProperties.1 hlater).2
    rw [List.map_append, List.mem_append, not_or] at hold
    exact hold.2 ((List.filter_sublist.map _).subset hnow)

/-- A merged class repeats no property exactly when its declarations, none of which does so itself,
have one spelling for each. -/
theorem nodup_propertyKeys_joined_iff {name : String} (h : ∀ d ∈ ds, d.propertyKeys.Nodup) :
    (joined name ds).propertyKeys.Nodup ↔
      ∀ p ∈ ds.flatMap (·.properties), ∀ q ∈ ds.flatMap (·.properties),
        Key.of p.name = Key.of q.name → p.name = q.name := by
  have hkeys : ∀ c : ClassDecl, c.propertyKeys = (c.properties.map (·.name)).map Key.of := by
    intro c
    simp only [propertyKeys, List.map_map, Function.comp_def]
  have hnames : ((joined name ds).properties.map (·.name)).Nodup :=
    nodup_freshProperties fun d hd => (hkeys d ▸ h d hd).of_map
  have hmem : ∀ s, s ∈ (joined name ds).properties.map (·.name) ↔
      s ∈ (ds.flatMap (·.properties)).map (·.name) := by
    intro s
    show s ∈ (freshProperties [] ds).map (·.name) ↔ _
    simp [mem_freshProperties]
  rw [hkeys, List.nodup_map_iff_inj_on hnames]
  simp only [hmem, List.forall_mem_map]

end ClassDecl

/-! ## Documents -/

namespace Definition

/-- No declaration of a class and no extension has two properties with the same key. -/
def PropertiesOnce (root : Node) : Prop :=
  ∀ n ∈ items root, n.tag = "class" ∨ n.tag = "class-extension" →
    ((n.childrenNamed "property").map fun p => Key.of (propertyOf p).name).Nodup

/-- All properties that the declarations and extensions of a class have. -/
def propertiesOf (root : Node) (name : String) : List PropertyDecl :=
  (declarations root name).flatMap fun n => (classOf name n).properties

/-- A document has one spelling for each class, and one for each property of a class. -/
structure OneSpelling (root : Node) : Prop where
  classes : ∀ name ∈ (declared root).map (·.1), ∀ name' ∈ (declared root).map (·.1),
    Key.of name = Key.of name' → name = name'
  properties : ∀ name ∈ (declared root).map (·.1),
    ∀ p ∈ propertiesOf root name, ∀ q ∈ propertiesOf root name,
      Key.of p.name = Key.of q.name → p.name = q.name

theorem PropertiesOnce.nodup {root : Node} (h : PropertiesOnce root) {name : String} {n : Node}
    (hn : n ∈ declarations root name) : (classOf name n).propertyKeys.Nodup := by
  have hitem : n ∈ items root ∧ (n.tag = "class" ∨ n.tag = "class-extension") := by
    rcases List.mem_append.1 hn with hn | hn
    · exact ⟨(List.mem_filter.1 hn).1, .inl (of_decide_eq_true (List.mem_filter.1 hn).2).1⟩
    · exact ⟨(List.mem_filter.1 hn).1, .inr (of_decide_eq_true (List.mem_filter.1 hn).2).1⟩
  simpa only [ClassDecl.propertyKeys, classOf, List.map_map, Function.comp_def] using
    h n hitem.1 hitem.2

end Definition

/-! ## Distinct classes -/

/-- No two classes have the same key, and no class has two properties with the same key. -/
structure Dictionary.Distinct (d : Dictionary) : Prop where
  classes : (d.classes.map (Key.of ·.name)).Nodup
  properties : ∀ c ∈ d.classes, c.propertyKeys.Nodup

/-- The fault is about a class or a property that comes twice, in whatever spelling. -/
def Fault.IsRepeat : Fault → Prop
  | .definition _ .repeatedClass => True
  | .definition _ (.repeatedProperty _) => True
  | .definition name (.keyTaken _ owner) => Key.of name = Key.of owner
  | _ => False

namespace Dictionary

variable {d : Dictionary} {root : Node} {enumerations : List String}

/-- Distinct classes are turned away because of their plurals only. -/
theorem Distinct.not_isRepeat (hd : d.Distinct) {f : Fault}
    (h : ClassRegistry.empty.load d.classes enumerations = .error f) : ¬ f.IsRepeat := by
  have hkeys : ((d.classes.map (·.name)).map Key.of).Nodup := by
    simpa only [List.map_map, Function.comp_def] using hd.classes
  have htable : ClassTable.ofDecls d.classes enumerations = .error f := Outcome.map_eq_error.1 h
  obtain ⟨c, hc, c', hc', hother, k, -, -, rfl⟩ := Roster.ofDecls_eq_error hkeys.of_map
    (ClassTable.ofDecls_eq_error hd.properties htable)
  intro hsame
  exact hother (List.inj_on_of_nodup_map hkeys (List.mem_map_of_mem hc') (List.mem_map_of_mem hc)
    (Eq.symm hsame))

theorem distinct_of_load {r : ClassRegistry}
    (h : ClassRegistry.empty.load d.classes enumerations = .ok r) : d.Distinct := by
  obtain ⟨t, ht, -⟩ := ClassRegistry.load_ok_iff.1 h
  obtain ⟨hapart, hproperties⟩ := ClassTable.exists_ofDecls_iff.1 ⟨t, ht⟩
  have hkeys : ∀ c c' : ClassDecl, c.keys.Disjoint c'.keys → Key.of c.name ≠ Key.of c'.name := by
    intro c c' hdisjoint hsame
    have hshared := c'.singular_mem_keys
    rw [← hsame] at hshared
    exact hdisjoint c.singular_mem_keys hshared
  exact ⟨List.pairwise_map.2 (hapart.imp fun {c c'} => hkeys c c'), hproperties⟩

/-- The classes of a document are distinct exactly when it has one spelling for each name. -/
theorem distinct_ofRoot_iff (h : PropertiesOnce root) :
    (Dictionary.ofRoot root).Distinct ↔ OneSpelling root := by
  have hclasses : ((Dictionary.ofRoot root).classes.map (Key.of ·.name)).Nodup ↔
      ∀ name ∈ (declared root).map (·.1), ∀ name' ∈ (declared root).map (·.1),
        Key.of name = Key.of name' → name = name' := by
    have hkeys : (Dictionary.ofRoot root).classes.map (Key.of ·.name) =
        ((declared root).map (·.1)).eraseDups.map Key.of := by
      simp only [classes_ofRoot, List.map_map, Function.comp_def, ClassDecl.joined]
    rw [hkeys, List.nodup_map_iff_inj_on (nodup_eraseDups _)]
    simp only [List.mem_eraseDups]
  have hproperties : (∀ c ∈ (Dictionary.ofRoot root).classes, c.propertyKeys.Nodup) ↔
      ∀ name ∈ (declared root).map (·.1), ∀ p ∈ propertiesOf root name,
        ∀ q ∈ propertiesOf root name, Key.of p.name = Key.of q.name → p.name = q.name := by
    rw [classes_ofRoot, List.forall_mem_map]
    simp only [List.mem_eraseDups]
    refine forall₂_congr fun name _ => ?_
    have honce : ∀ d ∈ (declarations root name).map (classOf name), d.propertyKeys.Nodup :=
      List.forall_mem_map.2 fun n hn => h.nodup hn
    rw [ClassDecl.nodup_propertyKeys_joined_iff honce, List.flatMap_map, ← propertiesOf]
  constructor
  · intro hd
    exact ⟨hclasses.1 hd.classes, hproperties.1 hd.properties⟩
  · intro hs
    exact ⟨hclasses.2 hs.classes, hproperties.2 hs.properties⟩

/-- **When reader and table agree on names**: of a document whose declarations repeat no property
themselves, the classes are distinct, and never turned away as repeated ones, exactly when the
document has one spelling for each class and each property of a class. Otherwise they do not load.
-/
theorem distinct_ofRoot_iff_oneSpelling (h : PropertiesOnce root) :
    ((Dictionary.ofRoot root).Distinct ∧ (∀ enumerations f,
        ClassRegistry.empty.load (Dictionary.ofRoot root).classes enumerations = .error f →
          ¬ f.IsRepeat) ↔ OneSpelling root) ∧
      (¬ OneSpelling root → ∀ enumerations, ∃ f,
        ClassRegistry.empty.load (Dictionary.ofRoot root).classes enumerations = .error f) := by
  rw [← distinct_ofRoot_iff h]
  refine ⟨⟨fun hd => hd.1, fun hd => ⟨hd, fun _ _ hf => hd.not_isRepeat hf⟩⟩, ?_⟩
  intro hmixed enumerations
  cases hload : ClassRegistry.empty.load (Dictionary.ofRoot root).classes enumerations with
  | ok r => exact absurd (distinct_of_load hload) hmixed
  | error f => exact ⟨f, rfl⟩

/-- Three declarations of tracks in one spelling are merged into one class. -/
theorem distinct_ofRoot_iff_oneSpelling_track :
    PropertiesOnce twoSuites ∧ OneSpelling twoSuites ∧
      (Dictionary.ofRoot twoSuites).classNames = ["item", "track", "playlist"] ∧
      (Dictionary.ofRoot twoSuites).Distinct := by
  have honce : PropertiesOnce twoSuites := by
    unfold PropertiesOnce
    decide +kernel
  have hspelling : OneSpelling twoSuites := ⟨by decide +kernel, by decide +kernel⟩
  exact ⟨honce, hspelling, by decide +kernel,
    ((distinct_ofRoot_iff_oneSpelling honce).1.2 hspelling).1⟩

end Dictionary

/-- Tracks are extended in their own spelling by a property in another one, and then in another
spelling. -/
def Definition.twoSpellings : Node := .element "dictionary" [] [.element "suite" [] [
  .element "class" [("name", "track")] [.element "property" [("name", "name")] []],
  .element "class-extension" [("extends", "track")] [.element "property" [("name", "Name")] []],
  .element "class-extension" [("extends", "Track")] [.element "property" [("name", "rating")] []]]]

/-- Neither extension finds what it repeats, and the classes do not load. -/
theorem Dictionary.extensions_in_other_spellings :
    PropertiesOnce twoSpellings ∧
      (Dictionary.ofRoot twoSpellings).classNames = ["track", "Track"] ∧
      Key.of "track" = Key.of "Track" ∧
      (∃ c ∈ (Dictionary.ofRoot twoSpellings).classes, ¬ c.propertyKeys.Nodup) ∧
      ClassRegistry.empty.load (Dictionary.ofRoot twoSpellings).classes [] =
        .error (.definition "Track" (.keyTaken "track" "track")) := by
  have honce : PropertiesOnce twoSpellings := by
    unfold PropertiesOnce
    decide +kernel
  have hfault : (match ClassRegistry.empty.load (Dictionary.ofRoot twoSpellings).classes [] with
      | .ok _ => none
      | .error f => some f) = some (.definition "Track" (.keyTaken "track" "track")) := by
    decide +kernel
  refine ⟨honce, by decide +kernel, by decide +kernel, by decide +kernel, ?_⟩
  cases hload : ClassRegistry.empty.load (Dictionary.ofRoot twoSpellings).classes [] with
  | ok r =>
    rw [hload] at hfault
    cases hfault
  | error f =>
    rw [hload] at hfault
    rw [Option.some.inj hfault]

end ScriptGateway
