import ScriptGateway.Proofs.Path.Segments
import ScriptGateway.Proofs.Schema.Keys
import ScriptGateway.Proofs.Specifier.Typing

/-!
# Every object has a path

A `Selector` is a chain of selections together with the choices that are made in writing it down: a
class by its singular or its plural name, an element by its number or by its name in quotes. The
path that is written leads back to the chain (`resolve_path`), provided that

* the selector is well typed over the table (`Selector.WellTyped`);
* its names can stand in a path (`Selector.Writable`);
* nothing that comes first where a segment is read shadows a step (`Selector.Unshadowed`): an
  element class comes before an object property, at the end of a path a property before a
  collection, and in a collection a number or a name in quotes before a property.

The proof follows the selector: each choice is a rule of `Walk.Move`, because the names it is
written by are keys of the table (`ClassTable.Keyed`).
-/

set_option autoImplicit false

namespace ScriptGateway

/-! ## Selectors -/

/-- The name by which a class is written. -/
inductive Spelling
  | singular
  | plural
  deriving DecidableEq

def ClassInfo.spelled (c : ClassInfo) : Spelling → String
  | .singular => c.name
  | .plural => c.plural

inductive Quote
  | double
  | single
  deriving DecidableEq

def Quote.char : Quote → Char
  | double => '"'
  | single => '\''

/-- How an element is picked from a collection. -/
inductive Pick
  | index (n : Nat)
  | name (s : String) (q : Quote)
  deriving DecidableEq

namespace Pick

def segment : Pick → String
  | index n => toString n
  | name s q => String.ofList (q.char :: (s.toList ++ [q.char]))

def selection : Pick → Selection
  | index n => .index n
  | name s _ => .name s

/-- Numbers start at one and are converted; names are neither empty nor parted by a slash. -/
def Valid : Pick → Prop
  | index n => 1 ≤ n ∧ (toString n).length ≤ Text.maxDigits
  | name s _ => s ≠ "" ∧ '/' ∉ s.toList

instance (k : Pick) : Decidable k.Valid :=
  match k with
  | index _ => inferInstanceAs (Decidable (_ ∧ _))
  | name _ _ => inferInstanceAs (Decidable (_ ∧ _))

/-- The step of the pick in a collection of `c`. -/
def step (k : Pick) (c : ClassInfo) : Step := ⟨k.segment, k.selection, c⟩

end Pick

/-- The step to all elements of a class, under one of its names. -/
def ClassInfo.opened (c : ClassInfo) (w : Spelling) : Step := ⟨c.spelled w, .collection, c⟩

/-- A chain of selections, with the choices of how it is written. -/
inductive Selector
  | property (p : Property)
  | collection (c : ClassInfo) (w : Spelling)
  /-- A property of all elements of a class. -/
  | across (c : ClassInfo) (w : Spelling) (p : Property)
  | element (c : ClassInfo) (w : Spelling) (k : Pick)
  /-- An element, and what is selected in it. -/
  | within (c : ClassInfo) (w : Spelling) (k : Pick) (rest : Selector)
  /-- The object that a property holds, and what is selected in it. -/
  | descend (p : Property) (c : ClassInfo) (rest : Selector)

namespace Selector

/-- The chain, from an object of class `current`. -/
def steps (current : ClassInfo) : Selector → List Step
  | property p => [⟨p.name, .property p, current⟩]
  | collection c w => [c.opened w]
  | across c w p => [c.opened w, ⟨p.name, .property p, c⟩]
  | element c w k => [c.opened w, k.step c]
  | within c w k rest => c.opened w :: k.step c :: rest.steps c
  | descend p c rest => ⟨p.name, .objectProperty p, c⟩ :: rest.steps c

/-- The path that is written for the chain. -/
def path (root : ClassInfo) (x : Selector) : String :=
  Path.along ((x.steps root).map (·.segment))

/-- The names of classes and properties that are written. -/
def names : Selector → List String
  | property p => [p.name]
  | collection c w => [c.spelled w]
  | across c w p => [c.spelled w, p.name]
  | element c w _ => [c.spelled w]
  | within c w _ rest => c.spelled w :: rest.names
  | descend p _ rest => p.name :: rest.names

end Selector

deriving instance DecidableEq for OrderedMap
deriving instance DecidableEq for ClassInfo

/-- A registered class whose objects are elements of objects of class `owner`. -/
def ClassTable.Contains (t : ClassTable) (owner c : ClassInfo) : Prop :=
  c ∈ t.classes ∧ c.name ∈ owner.elements.values

instance (t : ClassTable) (owner c : ClassInfo) : Decidable (t.Contains owner c) :=
  inferInstanceAs (Decidable (_ ∧ _))

namespace Selector

def WellTyped (t : ClassTable) (current : ClassInfo) : Selector → Prop
  | property p => p ∈ current.properties.values
  | collection c _ => t.Contains current c
  | across c _ p => t.Contains current c ∧ p ∈ c.properties.values
  | element c _ k => t.Contains current c ∧ k.Valid
  | within c _ k rest => t.Contains current c ∧ k.Valid ∧ rest.WellTyped t c
  | descend p c rest =>
    p ∈ current.properties.values ∧ t.propertyClass? p = some c ∧ rest.WellTyped t c

instance decidableWellTyped (t : ClassTable) (current : ClassInfo) :
    (x : Selector) → Decidable (x.WellTyped t current)
  | property p => inferInstanceAs (Decidable (p ∈ current.properties.values))
  | collection c _ => inferInstanceAs (Decidable (t.Contains current c))
  | across c _ p => inferInstanceAs (Decidable (t.Contains current c ∧ p ∈ c.properties.values))
  | element c _ k => inferInstanceAs (Decidable (t.Contains current c ∧ k.Valid))
  | within c _ k rest =>
    have := decidableWellTyped t c rest
    inferInstanceAs (Decidable (t.Contains current c ∧ k.Valid ∧ rest.WellTyped t c))
  | descend p c rest =>
    have := decidableWellTyped t c rest
    inferInstanceAs (Decidable
      (p ∈ current.properties.values ∧ t.propertyClass? p = some c ∧ rest.WellTyped t c))

/-- The names can stand in a path. -/
def Writable (x : Selector) : Prop := ∀ n ∈ x.names, Text.blank n = false ∧ '/' ∉ n.toList

instance (x : Selector) : Decidable x.Writable := inferInstanceAs (Decidable (∀ n ∈ x.names, _))

/-- No segment means something else that comes first (module doc). -/
def Unshadowed (current : ClassInfo) : Selector → Prop
  | property _ => True
  | collection c w => current.property? (c.spelled w) = none
  | across _ _ p => Path.index? p.name = .ok none ∧ Path.quotedName? p.name = none
  | element _ _ _ => True
  | within c _ _ rest => rest.Unshadowed c
  | descend p c rest => current.elements.get? (Key.of p.name) = none ∧ rest.Unshadowed c

instance decidableUnshadowed (current : ClassInfo) :
    (x : Selector) → Decidable (x.Unshadowed current)
  | property _ => inferInstanceAs (Decidable True)
  | collection c w => inferInstanceAs (Decidable (current.property? (c.spelled w) = none))
  | across _ _ p =>
    inferInstanceAs (Decidable (Path.index? p.name = .ok none ∧ Path.quotedName? p.name = none))
  | element _ _ _ => inferInstanceAs (Decidable True)
  | within c _ _ rest => decidableUnshadowed c rest
  | descend p c rest =>
    have := decidableUnshadowed c rest
    inferInstanceAs (Decidable
      (current.elements.get? (Key.of p.name) = none ∧ rest.Unshadowed c))

end Selector

/-! ## Segments that are written -/

namespace Pick

variable {k : Pick}

theorem quote_cases (q : Quote) : q.char = '"' ∨ q.char = '\'' := by
  cases q with
  | double => exact .inl rfl
  | single => exact .inr rfl

theorem segment_writable (hk : k.Valid) :
    Text.blank k.segment = false ∧ '/' ∉ k.segment.toList := by
  cases k with
  | index n =>
    have hdigits : ∀ c ∈ (toString n).toList, Text.isDigit c = true := by
      intro c hc
      exact Text.isDigit_of_mem_toDigits (n := n) (by simpa using hc)
    constructor
    · obtain ⟨c, cs, hcs⟩ := List.exists_cons_of_ne_nil (Nat.toDigits_ne_nil (b := 10) (n := n))
      have hc : c ∈ (toString n).toList := by simp [hcs]
      exact Path.blank_of_isDigit hc (hdigits c hc)
    · intro hslash
      exact Text.ne_of_isDigit (hdigits _ hslash) (by decide) rfl
  | name s q =>
    obtain ⟨-, hs⟩ := hk
    have hblank : Text.isBlank q.char = false := by cases q <;> decide
    have hslash : q.char ≠ '/' := by cases q <;> decide
    constructor
    · rw [Text.blank, List.all_eq_false]
      exact ⟨q.char, by simp [segment], by simp [hblank]⟩
    · simp [segment, hs, hslash.symm]

theorem isCollection_step (k : Pick) (c : ClassInfo) : (k.step c).isCollection = false := by
  cases k <;> rfl

/-- A valid pick is read back where a collection is at hand. -/
theorem move (hk : k.Valid) (t : ClassTable) (c : ClassInfo) (isLast : Bool) :
    Walk.Move t c true k.segment isLast (k.step c) := by
  have hblank := (segment_writable hk).1
  cases k with
  | index n =>
    obtain ⟨hpos, hlong⟩ := hk
    have hlen : (Nat.toDigits 10 n).length ≤ Text.maxDigits := by
      rw [← String.length_toList] at hlong
      simpa using hlong
    exact .index hblank (Path.index?_decimal hlen) (by omega)
  | name s q =>
    have hq := quote_cases q
    exact .quoted hblank (Path.index?_quoted hq s) (Path.quotedName?_quoted hq s) hk.1

end Pick

namespace ClassTable

variable {t : ClassTable} {current c : ClassInfo}

/-- An element class is found under both of its names. -/
theorem Keyed.elementClass? (ht : t.Keyed) (hcurrent : current ∈ t.classes)
    (hc : t.Contains current c) (w : Spelling) :
    t.elementClass? current (c.spelled w) = some c := by
  obtain ⟨hsingular, hplural⟩ := ht.element current hcurrent c hc.1 hc.2
  cases w with
  | singular => simp [ClassTable.elementClass?, ClassInfo.spelled, hsingular, ht.named c hc.1]
  | plural => simp [ClassTable.elementClass?, ClassInfo.spelled, hplural, ht.named c hc.1]

theorem mem_of_lookup? {name : String} (h : t.lookup? name = some c) : c ∈ t.classes := by
  obtain ⟨n, -, hn⟩ := Option.bind_eq_some_iff.1 h
  exact List.mem_of_find?_eq_some hn

end ClassTable

/-! ## Reading a selector back -/

namespace Selector

variable {t : ClassTable} {current : ClassInfo} {x : Selector}

theorem steps_ne_nil (current : ClassInfo) (x : Selector) : x.steps current ≠ [] := by
  cases x <;> simp [steps]

/-- Every segment is a name that is written or that of a valid pick. -/
theorem segment_writable (hw : x.WellTyped t current) (hn : x.Writable) :
    ∀ s ∈ x.steps current, Text.blank s.segment = false ∧ '/' ∉ s.segment.toList := by
  induction x generalizing current with
  | property p => simpa [steps] using hn p.name (by simp [names])
  | collection c w => simpa [steps, ClassInfo.opened] using hn (c.spelled w) (by simp [names])
  | across c w p =>
    simp only [Writable, names, List.forall_mem_cons] at hn
    simpa [steps, ClassInfo.opened] using hn
  | element c w k =>
    have hk := Pick.segment_writable hw.2
    have hc := hn (c.spelled w) (by simp [names])
    simpa [steps, ClassInfo.opened, Pick.step] using ⟨hc, hk⟩
  | within c w k rest ih =>
    obtain ⟨-, hk, hrest⟩ := hw
    obtain ⟨hc, hn⟩ := List.forall_mem_cons.1 hn
    exact List.forall_mem_cons.2
      ⟨hc, List.forall_mem_cons.2 ⟨Pick.segment_writable hk, ih hrest hn⟩⟩
  | descend p c rest ih =>
    obtain ⟨-, -, hrest⟩ := hw
    obtain ⟨hp, hn⟩ := List.forall_mem_cons.1 hn
    exact List.forall_mem_cons.2 ⟨hp, ih hrest hn⟩

theorem segments_path (hw : x.WellTyped t current) (hn : x.Writable) :
    Path.segments (x.path current) = (x.steps current).map (·.segment) := by
  have hsegs := segment_writable hw hn
  refine Path.segments_along ?_ fun hlast => ?_
  · rintro seg hseg
    obtain ⟨s, hs, rfl⟩ := List.mem_map.1 hseg
    exact (hsegs s hs).2
  · obtain ⟨s, hs, hempty⟩ := List.mem_map.1 (List.mem_of_getLast? hlast)
    have hblank := (hsegs s hs).1
    rw [hempty] at hblank
    exact absurd hblank (by decide)

/-- The segments lead along the chain. The induction is on the selector, for every class that it may
start from. -/
theorem leads (ht : t.Keyed) (hcurrent : current ∈ t.classes) (hw : x.WellTyped t current)
    (hn : x.Writable) (hs : x.Unshadowed current) :
    Walk.Leads t current false ((x.steps current).map (·.segment)) (x.steps current) := by
  induction x generalizing current with
  | property p =>
    obtain ⟨hblank, -⟩ := hn p.name (by simp [names])
    exact .next (.property hblank (ht.property current hcurrent p hw)) .here
  | collection c w =>
    -- at the end of a path a property would come first
    obtain ⟨hblank, -⟩ := hn (c.spelled w) (by simp [names])
    exact .next (.collection hblank (fun _ => hs) (ht.elementClass? hcurrent hw w)) .here
  | across c w p =>
    obtain ⟨hc, hp⟩ := hw
    obtain ⟨hindex, hquoted⟩ := hs
    obtain ⟨hblank, -⟩ := hn (c.spelled w) (by simp [names])
    obtain ⟨hblank', -⟩ := hn p.name (by simp [names])
    exact .next (.collection hblank (by simp) (ht.elementClass? hcurrent hc w))
      (.next (.across hblank' hindex hquoted (ht.property c hc.1 p hp)) .here)
  | element c w k =>
    obtain ⟨hc, hk⟩ := hw
    obtain ⟨hblank, -⟩ := hn (c.spelled w) (by simp [names])
    exact .next (.collection hblank (by simp) (ht.elementClass? hcurrent hc w))
      (.next (Pick.move hk t c true) .here)
  | within c w k rest ih =>
    obtain ⟨hc, hk, hrest⟩ := hw
    obtain ⟨⟨hblank, -⟩, hn⟩ := List.forall_mem_cons.1 hn
    -- behind the element an object is at hand again
    have hleads := ih hc.1 hrest hn hs
    rw [← Pick.isCollection_step k c] at hleads
    exact .next (.collection hblank (by simp) (ht.elementClass? hcurrent hc w))
      (.next (Pick.move hk t c _) hleads)
  | descend p c rest ih =>
    obtain ⟨hp, hclass, hrest⟩ := hw
    obtain ⟨hfree, hs⟩ := hs
    obtain ⟨⟨hblank, -⟩, hn⟩ := List.forall_mem_cons.1 hn
    have helement : t.elementClass? current p.name = none := by
      simp [ClassTable.elementClass?, hfree]
    have hc := ClassTable.mem_of_lookup? (ClassTable.propertyClass?_eq_some.1 hclass).2
    have hmore : ((rest.steps c).map (·.segment)).isEmpty = false := by
      simpa using steps_ne_nil c rest
    -- the property is not the last segment, where it would be read for its value
    refine .next ?_ (ih hc hrest hn hs)
    rw [hmore]
    exact .descend hblank helement (ht.property current hcurrent p hp) hclass

end Selector

/-- **Every object has a path**: the path that is written for a selector leads to its chain. -/
theorem resolve_path {declared : List ClassDecl} {enumerations : List String} {r : ClassRegistry}
    {t : ClassTable} {root : ClassInfo} {x : Selector}
    (hload : ClassRegistry.empty.load declared enumerations = .ok r) (ht : r.table? = some t)
    (hroot : t.lookup? ClassTable.rootName = some root) (hw : x.WellTyped t root)
    (hn : x.Writable) (hs : x.Unshadowed root) (stem : String) :
    resolve r (x.path root) stem = .ok ⟨x.path root, stem, root, x.steps root⟩ := by
  have hsegs := Selector.segments_path hw hn
  have hleads := Selector.leads (ClassRegistry.keyed_of_load hload ht)
    (ClassTable.mem_of_lookup? hroot) hw hn hs
  have hne : (x.steps root).map (·.segment) ≠ [] := by simpa using x.steps_ne_nil root
  rw [← hsegs] at hleads hne
  exact resolve_ok_iff.2 ⟨t, ht, hne, hroot, rfl, rfl, hleads⟩

/-- The name of a track whose name reads as a number, in the playlist that holds the second one. -/
def shelfSelector? (t : ClassTable) : Option Selector := do
  let playlist ← t.named? "playlist"
  let track ← t.named? "track"
  let parent ← playlist.property? "parent"
  let name ← track.property? "name"
  return .within playlist .plural (.index 2)
    (.descend parent playlist (.within track .singular (.name "12" .single) (.property name)))

theorem resolve_path_name_of_track :
    ∃ r t root, ∃ x : Selector, ClassRegistry.empty.load shelf [] = .ok r ∧ r.table? = some t ∧
      t.lookup? ClassTable.rootName = some root ∧ x.WellTyped t root ∧ x.Writable ∧
      x.Unshadowed root ∧ x.path root = "/playlists/2/parent/track/'12'/name" ∧
      resolve r "/playlists/2/parent/track/'12'/name" pathStem =
        .ok ⟨"/playlists/2/parent/track/'12'/name", pathStem, root, x.steps root⟩ := by
  have hpath : ((ClassRegistry.empty.load shelf []).toOption.bind fun r => r.table?.bind fun t =>
      (t.lookup? ClassTable.rootName).bind fun root => (shelfSelector? t).bind fun x =>
        if x.WellTyped t root ∧ x.Writable ∧ x.Unshadowed root then some (x.path root) else none) =
      some "/playlists/2/parent/track/'12'/name" := by decide +kernel
  obtain ⟨r, hr, hpath⟩ := Option.bind_eq_some_iff.1 hpath
  obtain ⟨t, ht, hpath⟩ := Option.bind_eq_some_iff.1 hpath
  obtain ⟨root, hroot, hpath⟩ := Option.bind_eq_some_iff.1 hpath
  obtain ⟨x, -, hpath⟩ := Option.bind_eq_some_iff.1 hpath
  obtain ⟨⟨hw, hn, hs⟩, hpath⟩ := Option.ite_none_right_eq_some.1 hpath
  have hpath := Option.some.inj hpath
  have hload := Outcome.toOption_eq_some.1 hr
  have hresolve := resolve_path hload ht hroot hw hn hs pathStem
  rw [hpath] at hresolve
  exact ⟨r, t, root, x, hload, ht, hroot, hw, hn, hs, hpath, hresolve⟩

end ScriptGateway
