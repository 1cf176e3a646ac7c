import ScriptGateway.Gateway.Route
import ScriptGateway.Proofs.Command.Table
import ScriptGateway.Proofs.Gateway.Readiness
import ScriptGateway.Proofs.Schema.Keys

/-!
# Kinds of properties and of parameters

A type name is sorted twice: for properties by the singular and plural keys of all classes, for
parameters by the singular keys alone. `TypeName.of` is the one reading of the basic names behind
both (`PropertyKind.of_eq`, `ParameterKind.of_eq`); the two differ on the names that a class
contests (`Dictionary.Contested`), and on no others (`Dictionary.alike_iff`). Where they are alike,
a value gets into a script in the same way for both (`PropertyKind.Alike.handledAs`).

Main statement: `Registries.kinds_alike_iff`.
-/

set_option autoImplicit false

namespace ScriptGateway

/-! ## Basic type names -/

/-- What a type name is by itself, without the classes and enumerations of a dictionary. -/
inductive TypeName
  | text
  | integer
  /-- A number that need not be an integer. -/
  | number
  | boolean
  | reference
  /-- Not a basic name. -/
  | declared
  deriving DecidableEq, Repr

open Kind in
def TypeName.of (k : Key) : TypeName :=
  if k ∈ textTypes then .text
  else if k ∈ integerTypes then .integer
  else if k ∈ numberTypes then .number
  else if k = booleanType then .boolean
  else if k ∈ referenceTypes then .reference
  else .declared

namespace Kind

theorem apart_of_text :
    ∀ k ∈ textTypes, k ≠ booleanType ∧ k ∉ numberTypes ∧ k ∉ referenceTypes := by
  decide

theorem apart_of_number : ∀ k ∈ numberTypes, k ≠ booleanType ∧ k ∉ referenceTypes := by
  decide

theorem number_of_integer : ∀ k ∈ integerTypes, k ∈ numberTypes := by
  decide

end Kind

theorem PropertyKind.of_eq (type : String) (classKeys enumerationKeys : List Key) :
    PropertyKind.of type classKeys enumerationKeys =
      match TypeName.of (Key.of type) with
      | .text => .text
      | .integer => .integer
      | .boolean => .boolean
      | .reference => .specifier
      | .number | .declared =>
        if Key.of type ∈ classKeys then .specifier
        else if Key.of type ∈ enumerationKeys then .enumerated
        else .other := by
  unfold PropertyKind.of TypeName.of
  generalize Key.of type = k
  by_cases hnumber : k ∈ Kind.numberTypes
  · obtain ⟨hboolean, hreference⟩ := Kind.apart_of_number k hnumber
    simp only [hnumber, hboolean, hreference, if_true, if_false, false_or]
    split_ifs <;> rfl
  · simp only [hnumber, if_false]
    split_ifs <;> simp_all

theorem ParameterKind.of_eq (type : String) (classKeys : List Key) :
    ParameterKind.of type classKeys =
      match TypeName.of (Key.of type) with
      | .text => if Key.of type ∈ classKeys then .specifier else .text
      | .integer | .number => .number
      | .boolean => .boolean
      | .reference => .specifier
      | .declared => if Key.of type ∈ classKeys then .specifier else .constant := by
  unfold ParameterKind.of TypeName.of
  generalize Key.of type = k
  by_cases htext : k ∈ Kind.textTypes
  · obtain ⟨hboolean, hnumber, hreference⟩ := Kind.apart_of_text k htext
    simp only [htext, hnumber, hboolean, hreference, if_true, if_false, false_or]
  · simp only [htext, if_false]
    by_cases hnumber : k ∈ Kind.numberTypes
    · simp only [hnumber, (Kind.apart_of_number k hnumber).1, if_true, if_false]
      split_ifs <;> rfl
    · have hinteger : k ∉ Kind.integerTypes := fun h => hnumber (Kind.number_of_integer k h)
      simp only [hnumber, hinteger, if_false]
      split_ifs <;> simp_all

/-! ## Kinds that are alike -/

/-- Texts, truth values and objects are such for the property and for the parameter alike. -/
def PropertyKind.Alike (p : PropertyKind) (q : ParameterKind) : Prop :=
  (p = .text ↔ q = .text) ∧ (p = .boolean ↔ q = .boolean) ∧ (p = .specifier ↔ q = .specifier)

instance (p : PropertyKind) (q : ParameterKind) : Decidable (p.Alike q) :=
  inferInstanceAs (Decidable (_ ∧ _ ∧ _))

namespace Dictionary

/-- The kind that a property of the given type has in the loaded dictionary. -/
def propertyKind (d : Dictionary) (type : String) : PropertyKind :=
  .of type (d.classes.flatMap (·.keys)) (d.enumerations.map Key.of)

/-- The kind that a parameter of the given type has in the loaded dictionary. -/
def parameterKind (d : Dictionary) (type : String) : ParameterKind :=
  .of type (d.classNames.map Key.of)

/-- The types that a class takes over for one of the two only: for parameters a text type that is
the singular name of a class, for properties a type of numbers other than integers that is a name of
a class, and the plural name of a class that is neither a basic type nor a singular name. -/
def Contested (d : Dictionary) (k : Key) : Prop :=
  TypeName.of k = .text ∧ k ∈ d.classNames.map Key.of ∨
    TypeName.of k = .number ∧ k ∈ d.classes.flatMap (·.keys) ∨
    TypeName.of k = .declared ∧ k ∈ d.classes.flatMap (·.keys) ∧ k ∉ d.classNames.map Key.of

instance (d : Dictionary) (k : Key) : Decidable (d.Contested k) :=
  inferInstanceAs (Decidable (_ ∨ _ ∨ _))

variable {d : Dictionary}

theorem mem_classKeys {k : Key} (h : k ∈ d.classNames.map Key.of) :
    k ∈ d.classes.flatMap (·.keys) := by
  rw [classNames, List.map_map] at h
  obtain ⟨c, hc, rfl⟩ := List.mem_map.1 h
  exact List.mem_flatMap.2 ⟨c, hc, c.singular_mem_keys⟩

/-- **Which types are sorted alike**: those that no class contests. -/
theorem alike_iff (type : String) :
    (d.propertyKind type).Alike (d.parameterKind type) ↔ ¬ d.Contested (Key.of type) := by
  rw [propertyKind, parameterKind, PropertyKind.of_eq, ParameterKind.of_eq, Contested]
  have hkeys := mem_classKeys (d := d) (k := Key.of type)
  generalize TypeName.of (Key.of type) = n
  cases n with
  | integer | boolean | reference => simp [PropertyKind.Alike]
  | text =>
    by_cases hsingular : Key.of type ∈ d.classNames.map Key.of
    · simp [PropertyKind.Alike, hsingular]
    · simp [PropertyKind.Alike, hsingular]
  | number =>
    by_cases hclass : Key.of type ∈ d.classes.flatMap (·.keys)
    · simp [PropertyKind.Alike, hclass]
    · simp only [hclass, if_false]
      split_ifs <;> simp [PropertyKind.Alike]
  | declared =>
    by_cases hsingular : Key.of type ∈ d.classNames.map Key.of
    · simp [PropertyKind.Alike, hsingular, hkeys hsingular]
    · by_cases hclass : Key.of type ∈ d.classes.flatMap (·.keys)
      · simp [PropertyKind.Alike, hsingular, hclass]
      · simp only [hsingular, hclass, if_false]
        split_ifs <;> simp [PropertyKind.Alike]

theorem boolean_iff (type : String) :
    d.propertyKind type = .boolean ↔ d.parameterKind type = .boolean := by
  rw [propertyKind, parameterKind, PropertyKind.of_eq, ParameterKind.of_eq]
  cases TypeName.of (Key.of type) with
  | integer | boolean | reference => simp
  | text | number | declared =>
    simp only []
    split_ifs <;> simp

end Dictionary

/-! ## Kinds in a loaded dictionary -/

theorem ClassRegistry.kind_of_load {d : Dictionary} {r : ClassRegistry}
    (h : ClassRegistry.empty.load d.classes d.enumerations = .ok r) {c : ClassInfo}
    (hc : c ∈ r.list) {p : Property} (hp : p ∈ c.properties.values) :
    p.kind = d.propertyKind p.valueType := by
  obtain ⟨t, ht, rfl⟩ := load_ok_iff.1 h
  obtain ⟨roster, hr, -, hclasses⟩ := ClassTable.exists_roster ht
  obtain ⟨decl, -, -, hok⟩ := Outcome.exists_left_of_mem hclasses hc
  have hfound := ClassInfo.property?_of_mem hok hp
  rw [ClassInfo.property?_ofMember hr hok, Option.map_eq_some_iff] at hfound
  obtain ⟨pd, -, hpd⟩ := hfound
  rw [← hpd, Dictionary.propertyKind, Property.ofDecl]

theorem CommandRegistry.kind_of_load {d : Dictionary} {r : CommandRegistry}
    (h : CommandRegistry.empty.load d.commands d.classNames = .ok r) {c : Command}
    (hc : c ∈ r.list) : ∃ decl ∈ d.commands, c.name = decl.name ∧
      c.parameters = decl.parameters.map fun p => ⟨p.name, d.parameterKind p.type, p.optional⟩ := by
  obtain ⟨t, ht, rfl⟩ := load_ok_iff.1 h
  obtain ⟨decl, hdecl, rfl⟩ := CommandTable.exists_decl_of_mem ht hc
  exact ⟨decl, hdecl, rfl, rfl⟩

/-! ## Values of a property and of a parameter -/

/-- A value gets into a script in the same way for the property and for the parameter: as the same
literal, or as the object that it leads to. -/
structure Property.HandledAs (r : ClassRegistry) (p : Property) (q : Parameter) : Prop where
  literal : ∀ raw, p.kind = .text ∨ p.kind = .boolean →
    Specifier.propertyArgument r p raw = Call.argument r q raw
  object : ∀ raw, p.kind = .specifier →
    Specifier.propertyArgument r p raw = Call.object r raw writeParameter ∧
      Call.argument r q raw = Call.object r raw (Naming.variableStem q.name)

theorem PropertyKind.Alike.handledAs {p : Property} {q : Parameter} (h : p.kind.Alike q.kind)
    (r : ClassRegistry) : p.HandledAs r q := by
  obtain ⟨htext, hboolean, hspecifier⟩ := h
  constructor
  · rintro raw (hp | hp)
    · rw [Specifier.propertyArgument, Call.argument, hp, htext.1 hp]
    · rw [Specifier.propertyArgument, Call.argument, hp, hboolean.1 hp]
  · intro raw hp
    rw [Specifier.propertyArgument, Call.argument, hp, hspecifier.1 hp]
    exact ⟨rfl, rfl⟩

/-- **When properties and parameters of one type are alike**: in a loaded dictionary a type decides
on the kinds of its properties and of its parameters. The two are alike exactly when no class
contests the type, and then a value is handled in the same way for both; truth values are such for
both in any case. -/
theorem Registries.kinds_alike_iff {d : Dictionary} {rs : Registries}
    (h : Registries.empty.load d = (rs, none)) :
    (∀ c ∈ rs.classes.list, ∀ p ∈ c.properties.values, p.kind = d.propertyKind p.valueType) ∧
    (∀ c ∈ rs.commands.list, ∃ decl ∈ d.commands, c.name = decl.name ∧
      c.parameters = decl.parameters.map fun p => ⟨p.name, d.parameterKind p.type, p.optional⟩) ∧
    ∀ type,
      ((d.propertyKind type).Alike (d.parameterKind type) ↔ ¬ d.Contested (Key.of type)) ∧
      (d.propertyKind type = .boolean ↔ d.parameterKind type = .boolean) ∧
      (¬ d.Contested (Key.of type) → ∀ (p : Property) (q : Parameter),
        p.kind = d.propertyKind type → q.kind = d.parameterKind type →
          p.HandledAs rs.classes q) := by
  obtain ⟨hclasses, hcommands⟩ := load_eq_none_iff.1 h
  refine ⟨fun c hc p hp => ClassRegistry.kind_of_load hclasses hc hp,
    fun c hc => CommandRegistry.kind_of_load hcommands hc, fun type =>
    ⟨Dictionary.alike_iff type, Dictionary.boolean_iff type, ?_⟩⟩
  intro hfree p q hp hq
  have halike := (Dictionary.alike_iff type).2 hfree
  rw [← hp, ← hq] at halike
  exact halike.handledAs rs.classes

/-- Classes called like a text type and like a number type, and a type in the plural. -/
def Dictionary.contestedTypes : Dictionary where
  classes := [
    ⟨"track", some "tracks", none, [], []⟩,
    ⟨"text", some "texts", none, [], []⟩,
    ⟨"real", some "reals", none, [], []⟩,
    ⟨"application", some "applications", none,
      [⟨"caption", "text", "rw"⟩, ⟨"scale", "real", "rw"⟩, ⟨"selection", "tracks", "rw"⟩], []⟩]
  commands := [⟨"reveal",
    [⟨"caption", "text", true⟩, ⟨"scale", "real", true⟩, ⟨"selection", "tracks", true⟩]⟩]
  enumerations := []

theorem Registries.exists_loaded_contestedTypes :
    ∃ rs, Registries.empty.load .contestedTypes = (rs, none) := by
  have hnone : (Registries.empty.load .contestedTypes).2 = none := by decide +kernel
  exact ⟨_, Prod.ext rfl hnone⟩

/-- Both take a track as an object, under names of its own. -/
theorem Registries.kinds_alike_iff_track :
    ∃ rs, Registries.empty.load .contestedTypes = (rs, none) ∧
      ¬ Dictionary.contestedTypes.Contested (Key.of "Track") ∧
      (Dictionary.contestedTypes.propertyKind "Track").Alike
        (Dictionary.contestedTypes.parameterKind "Track") ∧
      Property.HandledAs rs.classes ⟨"current", .specifier, .readWrite, "Track"⟩
        ⟨"current", .specifier, true⟩ := by
  obtain ⟨rs, hrs⟩ := exists_loaded_contestedTypes
  have hfree : ¬ Dictionary.contestedTypes.Contested (Key.of "Track") := by decide +kernel
  obtain ⟨halike, -, hhandled⟩ := (kinds_alike_iff hrs).2.2 "Track"
  exact ⟨rs, hrs, hfree, halike.2 hfree, hhandled hfree _ _ (by decide +kernel) (by decide +kernel)⟩

/-- What is a text for a property is an object for a parameter; what is an object for a property may
be a number or a constant for a parameter. -/
theorem Registries.kinds_not_alike :
    ∃ rs c, Registries.empty.load .contestedTypes = (rs, none) ∧
      rs.classes.lookup? "application" = some c ∧
      (c.properties.values.map fun p => (p.valueType, p.kind)) =
        [("text", .text), ("real", .specifier), ("tracks", .specifier)] ∧
      rs.commands.lookup? "reveal" = some ⟨"reveal",
        [⟨"caption", .specifier, true⟩, ⟨"scale", .number, true⟩,
          ⟨"selection", .constant, true⟩]⟩ ∧
      ∀ type ∈ ["text", "real", "tracks"],
        ¬ (Dictionary.contestedTypes.propertyKind type).Alike
          (Dictionary.contestedTypes.parameterKind type) := by
  obtain ⟨rs, hrs⟩ := exists_loaded_contestedTypes
  have hkinds : (((Registries.empty.load .contestedTypes).1.classes.lookup? "application").map
      fun c => c.properties.values.map fun p => (p.valueType, p.kind)) =
      some [("text", .text), ("real", .specifier), ("tracks", .specifier)] := by
    decide +kernel
  have hcommand : (Registries.empty.load .contestedTypes).1.commands.lookup? "reveal" =
      some ⟨"reveal", [⟨"caption", .specifier, true⟩, ⟨"scale", .number, true⟩,
        ⟨"selection", .constant, true⟩]⟩ := by
    decide +kernel
  rw [hrs] at hkinds hcommand
  obtain ⟨c, hc, hkinds⟩ := Option.map_eq_some_iff.1 hkinds
  exact ⟨rs, c, hrs, hc, hkinds, hcommand, by decide +kernel⟩

end ScriptGateway
