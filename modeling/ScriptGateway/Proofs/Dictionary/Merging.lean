import ScriptGateway.Dictionary.OfDocument
import ScriptGateway.Proofs.OrderedMap

/-!
# Merged classes

The reader of a scripting definition goes through the suites and adds each declaration of a class to
the ones before it, and then each class extension. `ClassDecl.joined` says what all the declarations
of one class make, seen at once, and `Definition.declarations` picks them out of a document.

* `foldl_merge`: adding declarations one after the other makes what `joined` says.
* `get?_foldl_addClass`: declarations of other classes do not matter.
* `Dictionary.classes_ofRoot`: the classes of a document are the joined ones, in the order in which
  their names first came.

Main statement: `Dictionary.classes_merged`.
-/

set_option autoImplicit false

namespace ScriptGateway

open Markup

/-! ## One class from its declarations -/

attribute [ext] ClassDecl

namespace ClassDecl

/-- The properties of a row of declarations, one declaration after the other. A property that one of
the `earlier` ones or a declaration before its own has under exactly the same name is left out. -/
def freshProperties (earlier : List PropertyDecl) : List ClassDecl → List PropertyDecl
  | [] => []
  | d :: later =>
    d.properties.filter (fun p => ∀ q ∈ earlier, q.name ≠ p.name) ++
      freshProperties (earlier ++ d.properties) later

/-- What the declarations of a class make: plural and parent come from the first one that has them,
the first one's elements are followed by each element that is not there yet. -/
def joined (name : String) (ds : List ClassDecl) : ClassDecl where
  name := name
  plural := ds.findSome? (·.plural)
  inherits := ds.findSome? (·.inherits)
  properties := freshProperties [] ds
  elements :=
    match ds with
    | [] => []
    | d :: later => d.elements ++ ((later.flatMap (·.elements)).removeAll d.elements).eraseDups

end ClassDecl

namespace Definition

open ClassDecl

variable {d : ClassDecl} {ds later : List ClassDecl} {m : OrderedMap String ClassDecl}

theorem foldl_merge_name : (later.foldl merge d).name = d.name := by
  induction later generalizing d with
  | nil => rfl
  | cons e later ih => exact ih

/-- Of an attribute that an earlier declaration has before a later one, the first is kept. -/
theorem foldl_merge_attribute {f : ClassDecl → Option String}
    (hf : ∀ c d, f (merge c d) = (f c).or (f d)) :
    f (later.foldl merge d) = (d :: later).findSome? f := by
  induction later generalizing d with
  | nil => simp
  | cons e later ih =>
    rw [List.foldl_cons, ih, List.findSome?_cons, List.findSome?_cons, List.findSome?_cons, hf]
    cases f d <;> simp

/-- What is new to a merged class is what is new to its declarations. The induction is on the later
declarations; what it keeps is that the class has the names of the `earlier` properties. -/
theorem foldl_merge_properties {earlier : List PropertyDecl}
    (h : ∀ name, name ∈ d.properties.map (·.name) ↔ name ∈ earlier.map (·.name)) :
    (later.foldl merge d).properties = d.properties ++ freshProperties earlier later := by
  induction later generalizing d earlier with
  | nil => simp [freshProperties]
  | cons e later ih =>
    have hnew : (merge d e).properties =
        d.properties ++ e.properties.filter fun p => ∀ q ∈ earlier, q.name ≠ p.name := by
      refine congrArg (d.properties ++ ·) (List.filter_congr fun p _ => ?_)
      simp only [List.contains_eq_mem, h p.name, List.mem_map, not_exists, not_and,
        ← decide_not, ne_eq]
    have hnames : ∀ name, name ∈ (merge d e).properties.map (·.name) ↔
        name ∈ (earlier ++ e.properties).map (·.name) := by
      intro name
      rw [hnew, List.map_append, List.map_append, List.mem_append, List.mem_append, h name]
      -- an old name that is left out of the new ones is among the earlier ones
      by_cases hold : name ∈ earlier.map (·.name)
      · simp [hold]
      · simp only [hold, false_or, List.mem_map, List.mem_filter, decide_eq_true_eq]
        refine exists_congr fun p => ⟨fun hp => ⟨hp.1.1, hp.2⟩, fun hp => ⟨⟨hp.1, ?_⟩, hp.2⟩⟩
        intro q hq hname
        exact hold (List.mem_map.2 ⟨q, hq, hname.trans hp.2⟩)
    rw [List.foldl_cons, ih hnames, hnew, List.append_assoc, freshProperties]

theorem foldl_merge_elements :
    (later.foldl merge d).elements =
      d.elements ++ ((later.flatMap (·.elements)).removeAll d.elements).eraseDups := by
  rw [← foldl_addNew, List.foldl_flatMap]
  induction later generalizing d with
  | nil => rfl
  | cons e later ih => exact ih

/-- Adding the later declarations to the first one, one after the other. -/
theorem foldl_merge : later.foldl merge d = joined d.name (d :: later) := by
  have hproperties : (later.foldl merge d).properties = freshProperties [] (d :: later) := by
    rw [foldl_merge_properties fun _ => Iff.rfl]
    simp [freshProperties]
  exact ClassDecl.ext foldl_merge_name (foldl_merge_attribute fun _ _ => rfl)
    (foldl_merge_attribute fun _ _ => rfl) hproperties foldl_merge_elements

/-! ## The table of classes -/

/-- The class under a name after one declaration more. -/
def mergeInto : Option ClassDecl → ClassDecl → ClassDecl
  | none, d => d
  | some c, d => merge c d

theorem foldl_mergeInto :
    (d :: later).foldl (fun c d => some (mergeInto c d)) none = some (later.foldl merge d) := by
  rw [List.foldl_cons]
  induction later generalizing d with
  | nil => rfl
  | cons e later ih => exact ih (d := merge d e)

theorem addClass_eq (m : OrderedMap String ClassDecl) (d : ClassDecl) :
    addClass m d = m.insert d.name (mergeInto (m.get? d.name) d) := by
  unfold addClass
  cases m.get? d.name <;> rfl

theorem keys_addClass (m : OrderedMap String ClassDecl) (d : ClassDecl) :
    (addClass m d).keys = if d.name ∈ m.keys then m.keys else m.keys ++ [d.name] := by
  rw [addClass_eq, OrderedMap.keys_insert]

/-- Only declarations of the class count for what stands under its name. -/
theorem get?_foldl_addClass (m : OrderedMap String ClassDecl) (name : String) :
    (ds.foldl addClass m).get? name =
      (ds.filter (·.name = name)).foldl (fun c d => some (mergeInto c d)) (m.get? name) := by
  induction ds generalizing m with
  | nil => rfl
  | cons d ds ih =>
    rw [List.foldl_cons, ih, addClass_eq, OrderedMap.get?_insert]
    by_cases hd : d.name = name
    · simp [hd]
    · simp [hd]

/-- Under the name of a class stands what its declarations make. -/
theorem get?_classes {name : String} (h : name ∈ ds.map (·.name)) :
    (ds.foldl addClass .empty).get? name = some (joined name (ds.filter (·.name = name))) := by
  rw [get?_foldl_addClass, OrderedMap.get?_empty]
  cases hds : ds.filter (·.name = name) with
  | nil =>
    obtain ⟨d, hd, hname⟩ := List.mem_map.1 h
    have hmem : d ∈ ds.filter (·.name = name) := List.mem_filter.2 ⟨hd, by simpa using hname⟩
    rw [hds] at hmem
    cases hmem
  | cons d later =>
    have hd : d ∈ ds.filter (·.name = name) := hds ▸ List.mem_cons_self
    have hname : d.name = name := by simpa using (List.mem_filter.1 hd).2
    rw [foldl_mergeInto, foldl_merge, hname]

theorem keys_classes : (ds.foldl addClass .empty).keys = (ds.map (·.name)).eraseDups :=
  OrderedMap.keys_foldl keys_addClass ds

/-- One class for each name, in the order in which the names first came. -/
theorem values_classes :
    (ds.foldl addClass .empty).values =
      (ds.map (·.name)).eraseDups.map fun name => joined name (ds.filter (·.name = name)) := by
  have hnodup : (ds.foldl addClass .empty).keys.Nodup := by
    rw [keys_classes]
    exact nodup_eraseDups _
  rw [OrderedMap.values_eq_filterMap hnodup, keys_classes,
    List.filterMap_congr fun name hname => get?_classes (List.mem_eraseDups.1 hname),
    List.filterMap_eq_map']

/-! ## The declarations of a document -/

/-- The elements of a document that declare the class of the given name, and then those that extend
it, both in the order of the suites. -/
def declarations (root : Node) (name : String) : List Node :=
  (items root).filter (fun n => n.tag = "class" ∧ n.attribute? "name" = some name) ++
    (items root).filter fun n => n.tag = "class-extension" ∧ n.attribute? "extends" = some name

/-- The names that the elements with a tag have in an attribute, in their order. -/
def namesIn (tag key : String) (root : Node) : List String := (itemsWith tag key root).map (·.1)

/-- All declarations in the order in which they are read, each with the name of its class. -/
def declared (root : Node) : List (String × Node) :=
  itemsWith "class" "name" root ++ itemsWith "class-extension" "extends" root

theorem given?_eq_some_iff {key v : String} {n : Node} :
    given? key n = some v ↔ n.attribute? key = some v ∧ v ≠ "" := by
  simp [given?, Option.filter_eq_some_iff]

theorem mem_itemsWith {tag key v : String} {root n : Node} :
    (v, n) ∈ itemsWith tag key root ↔ n ∈ items root ∧ n.tag = tag ∧ given? key n = some v := by
  simp only [itemsWith, List.mem_filterMap, List.mem_filter, decide_eq_true_eq,
    Option.map_eq_some_iff, Prod.mk.injEq]
  constructor
  · rintro ⟨n', ⟨hn, htag⟩, v', hv, rfl, rfl⟩
    exact ⟨hn, htag, hv⟩
  · rintro ⟨hn, htag, hv⟩
    exact ⟨n, ⟨hn, htag⟩, v, hv, rfl, rfl⟩

theorem filter_itemsWith {tag key name : String} {root : Node} (hname : name ≠ "") :
    (itemsWith tag key root).filter (·.1 = name) =
      ((items root).filter fun n => n.tag = tag ∧ n.attribute? key = some name).map
        fun n => (name, n) := by
  unfold itemsWith
  induction items root with
  | nil => rfl
  | cons n rest ih =>
    by_cases htag : n.tag = tag
    · cases hgiven : given? key n with
      | none =>
        have hother : n.attribute? key ≠ some name := by
          intro h
          rw [given?_eq_some_iff.2 ⟨h, hname⟩] at hgiven
          cases hgiven
        simp [htag, hgiven, hother, ih]
      | some v =>
        have hv := given?_eq_some_iff.1 hgiven
        by_cases hvn : v = name
        · simp [htag, hgiven, hv.1, hvn, ih]
        · simp [htag, hgiven, hv.1, hvn, ih]
    · simp [htag, ih]

theorem filter_declared {root : Node} {name : String} (hname : name ≠ "") :
    (declared root).filter (·.1 = name) = (declarations root name).map fun n => (name, n) := by
  rw [declared, List.filter_append, filter_itemsWith hname, filter_itemsWith hname, declarations,
    List.map_append]

theorem name_ne_empty {root : Node} {name : String} (h : name ∈ (declared root).map (·.1)) :
    name ≠ "" := by
  obtain ⟨⟨v, n⟩, he, rfl⟩ := List.mem_map.1 h
  rcases List.mem_append.1 he with he | he
  · exact (given?_eq_some_iff.1 (mem_itemsWith.1 he).2.2).2
  · exact (given?_eq_some_iff.1 (mem_itemsWith.1 he).2.2).2

theorem mem_declared_iff {root : Node} {name : String} (hname : name ≠ "") :
    name ∈ (declared root).map (·.1) ↔ declarations root name ≠ [] := by
  have hnone : declarations root name = [] ↔ (declared root).filter (·.1 = name) = [] := by
    rw [filter_declared hname, List.map_eq_nil_iff]
  rw [ne_eq, hnone, List.filter_eq_nil_iff]
  simp

end Definition

open Definition

/-- The classes of a document are what their declarations make, in the order in which their names
first came. -/
theorem Dictionary.classes_ofRoot (root : Node) :
    (Dictionary.ofRoot root).classes = ((declared root).map (·.1)).eraseDups.map fun name =>
      ClassDecl.joined name ((declarations root name).map (classOf name)) := by
  have hds : (declared root).foldl (fun m e => addClass m (classOf e.1 e.2)) .empty =
      ((declared root).map fun e => classOf e.1 e.2).foldl addClass .empty := by
    rw [List.foldl_map]
  have hnames : ((declared root).map fun e => classOf e.1 e.2).map (·.name) =
      (declared root).map (·.1) := by
    rw [List.map_map]
    rfl
  show ((declared root).foldl (fun m e => addClass m (classOf e.1 e.2)) .empty).values = _
  rw [hds, values_classes, hnames]
  refine List.map_congr_left fun name hname => congrArg (ClassDecl.joined name) ?_
  have hne := name_ne_empty (List.mem_eraseDups.1 hname)
  have hfilter : ((declared root).map fun e => classOf e.1 e.2).filter (·.name = name) =
      ((declared root).filter (·.1 = name)).map fun e => classOf e.1 e.2 := by
    rw [List.filter_map]
    rfl
  rw [hfilter, filter_declared hne, List.map_map]
  rfl

/-- **Declarations of a class are merged**: a document has no class of a name that it does not
declare, and for every other one exactly one class, made of its declarations and then its
extensions, wherever these stand. The classes come in the order of their first declarations, and
then those that are only extended in the order of their first extensions. -/
theorem Dictionary.classes_merged (root : Node) :
    (∀ name, name ≠ "" → (Dictionary.ofRoot root).classes.filter (·.name = name) =
      if declarations root name = [] then []
      else [ClassDecl.joined name ((declarations root name).map (classOf name))]) ∧
    (Dictionary.ofRoot root).classNames =
      (namesIn "class" "name" root).eraseDups ++
        ((namesIn "class-extension" "extends" root).removeAll
          (namesIn "class" "name" root)).eraseDups := by
  have hnames : (Dictionary.ofRoot root).classNames = ((declared root).map (·.1)).eraseDups := by
    rw [classNames, classes_ofRoot, List.map_map]
    exact List.map_id' _
  refine ⟨fun name hname => ?_, ?_⟩
  · have hfilter : (Dictionary.ofRoot root).classes.filter (·.name = name) =
        (((declared root).map (·.1)).eraseDups.filter (· = name)).map fun name =>
          ClassDecl.joined name ((declarations root name).map (classOf name)) := by
      rw [classes_ofRoot, List.filter_map]
      rfl
    have hmem : name ∈ ((declared root).map (·.1)).eraseDups ↔ declarations root name ≠ [] :=
      List.mem_eraseDups.trans (mem_declared_iff hname)
    rw [hfilter, List.filter_eq, (nodup_eraseDups _).count]
    by_cases hnone : declarations root name = []
    · simp [hmem, hnone]
    · simp [hmem, hnone]
  · rw [hnames, declared, List.map_append, List.eraseDups_append]
    rfl

/-- Tracks are declared in two suites, and extended before the first declaration. -/
def Definition.twoSuites : Node := .element "dictionary" [] [
  .element "suite" [("name", "Standard Suite")] [
    .element "class-extension" [("extends", "track"), ("inherits", "item")] [
      .element "property" [("name", "rating"), ("type", "integer")] [],
      .element "property" [("name", "name"), ("type", "integer")] [],
      .element "element" [("type", "lyric")] []],
    .element "class" [("name", "item")] [],
    .element "class" [("name", "track")] [
      .element "property" [("name", "name"), ("access", "r")] [],
      .element "element" [("type", "artwork")] [],
      .element "element" [("type", "artwork")] []]],
  .element "suite" [("name", "Media Suite")] [
    .element "class-extension" [("extends", "playlist")] [],
    .element "class" [("name", "track"), ("plural", "songs")] [
      .element "property" [("name", "duration")] [.element "type" [("type", "real")] []],
      .element "element" [("type", "lyric")] [],
      .element "element" [("type", "artwork")] []]]]

theorem Dictionary.classes_merged_track :
    "track" ≠ "" ∧
      (Dictionary.ofRoot twoSuites).classes.filter (·.name = "track") = [
        ⟨"track", some "songs", some "item",
          [⟨"name", "text", "r"⟩, ⟨"duration", "real", "rw"⟩, ⟨"rating", "integer", "rw"⟩],
          ["artwork", "artwork", "lyric"]⟩] ∧
      (Dictionary.ofRoot twoSuites).classNames = ["item", "track", "playlist"] := by
  obtain ⟨hclasses, hnames⟩ := classes_merged twoSuites
  have htrack : "track" ≠ "" := by decide
  refine ⟨htrack, ?_, ?_⟩
  · rw [hclasses "track" htrack]
    decide +kernel
  · rw [hnames]
    decide +kernel

end ScriptGateway
