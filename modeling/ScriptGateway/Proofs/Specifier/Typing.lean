import ScriptGateway.Proofs.Specifier.Moves

/-!
# Typing of chains

`Specifier.Typed t s`: the chain of `s` is well typed over the class table `t`. Each step is legal
after the step before it (`Step.Legal`): an element is selected from the collection just opened, a
collection or a property belongs to the class at hand, and nothing follows a property. Every class
on the way is the registered one of its name, so a chain is determined by the names it records.

A followed path is typed (`resolve_typed`). The invariant that carries the proof is the state of the
walk read off the last step taken, `classAfter` and `inCollection`.
-/

set_option autoImplicit false

namespace ScriptGateway

/-! ## Classes found in a table -/

namespace ClassTable

variable {t : ClassTable} {c owner : ClassInfo} {name : String}

/-- A class is found again under its own name. -/
theorem named?_self (h : t.named? name = some c) : t.named? c.name = some c := by
  have hn : c.name = name := by simpa using List.find?_some h
  rw [hn, h]

theorem named?_of_lookup? (h : t.lookup? name = some c) : t.named? c.name = some c := by
  obtain ⟨n, -, hn⟩ := Option.bind_eq_some_iff.1 h
  exact named?_self hn

theorem named?_of_elementClass? (h : t.elementClass? owner name = some c) :
    t.named? c.name = some c := by
  obtain ⟨n, -, hn⟩ := Option.bind_eq_some_iff.1 h
  exact named?_self hn

theorem propertyClass?_eq_some {p : Property} :
    t.propertyClass? p = some c ↔ p.kind = .specifier ∧ t.lookup? p.valueType = some c := by
  unfold propertyClass?
  split <;> simp_all

end ClassTable

/-! ## The rules of a chain -/

theorem Step.property?_eq_some {s : Step} {p : Property} :
    s.property? = some p ↔ s.selection = .property p := by
  unfold property?
  cases s.selection <;> simp [eq_comm]

/-- The class of what is at hand after the step `prev?`; before any step it is that of the root. -/
def classAfter (root : ClassInfo) (prev? : Option Step) : ClassInfo :=
  (prev?.map (·.target)).getD root

/-- The step `prev?` has opened a collection. -/
def inCollection (prev? : Option Step) : Bool := prev?.any (·.isCollection)

/-- What a step may be, directly after the step `prev?`. -/
def Step.Legal (t : ClassTable) (root : ClassInfo) (prev? : Option Step) (isLast : Prop)
    (s : Step) : Prop :=
  match s.selection with
  | .collection =>
    inCollection prev? = false ∧ t.elementClass? (classAfter root prev?) s.segment = some s.target
  | .index n =>
    inCollection prev? = true ∧ s.target = classAfter root prev? ∧
      Path.index? s.segment = .ok (some n) ∧ 1 ≤ n
  | .name text =>
    inCollection prev? = true ∧ s.target = classAfter root prev? ∧
      text = (Path.quotedName? s.segment).getD s.segment ∧ text ≠ ""
  | .objectProperty p =>
    inCollection prev? = false ∧ (classAfter root prev?).property? s.segment = some p ∧
      p.kind = .specifier ∧ t.lookup? p.valueType = some s.target
  | .property p =>
    isLast ∧ (classAfter root prev?).property? s.segment = some p ∧
      s.target = classAfter root prev?

/-- The step before a position of a chain whose first step follows `prev?`. -/
def stepBefore? (prev? : Option Step) (steps : List Step) : Nat → Option Step
  | 0 => prev?
  | i + 1 => steps[i]?

/-- A well-typed chain (module doc). -/
structure Specifier.Typed (t : ClassTable) (s : Specifier) : Prop where
  root : t.lookup? ClassTable.rootName = some s.root
  legal : ∀ (i : Nat) (x : Step), s.steps[i]? = some x →
    x.Legal t s.root (stepBefore? none s.steps i) (i + 1 = s.steps.length)
  registered : ∀ x ∈ s.steps, t.named? x.target.name = some x.target
  target : ∃ last, s.steps.getLast? = some last ∧ t.named? last.target.name = some s.target
  isProperty : s.isProperty = true ↔
    ∃ last p, s.steps.getLast? = some last ∧ last.selection = .property p

/-! ## Following a path keeps the rules -/

namespace Walk

variable {t : ClassTable} {current : ClassInfo} {pending isLast : Bool} {segment : String}
  {s : Step}

theorem Move.segment_eq (h : Move t current pending segment isLast s) : s.segment = segment := by
  cases h <;> rfl

theorem Move.registered (h : Move t current pending segment isLast s)
    (hc : t.named? current.name = some current) : t.named? s.target.name = some s.target := by
  cases h with
  | collection _ _ he => exact ClassTable.named?_of_elementClass? he
  | descend _ _ _ hd =>
    exact ClassTable.named?_of_lookup? (ClassTable.propertyClass?_eq_some.1 hd).2
  | index | quoted | across | bare | property => exact hc

theorem Move.legal {root : ClassInfo} {prev? : Option Step}
    (h : Move t (classAfter root prev?) (inCollection prev?) segment isLast s) :
    s.Legal t root prev? (isLast = true) := by
  generalize hp : inCollection prev? = pending at h
  cases h with
  | @index _ _ n _ hi hn =>
    have hcast : ((n.toNat : Nat) : Int) = n := Int.toNat_of_nonneg (by omega)
    exact ⟨hp, rfl, by rw [hcast, hi], by omega⟩
  | quoted _ _ hq hne => exact ⟨hp, rfl, by rw [hq, Option.getD_some], hne⟩
  | across _ _ _ hprop => exact ⟨rfl, hprop, rfl⟩
  | bare hb _ hq =>
    refine ⟨hp, rfl, by rw [hq, Option.getD_none], ?_⟩
    rintro rfl
    exact absurd hb (by decide)
  | property _ hprop => exact ⟨rfl, hprop, rfl⟩
  | collection _ _ hc => exact ⟨hp, hc⟩
  | descend _ _ hprop hd => exact ⟨hp, hprop, ClassTable.propertyClass?_eq_some.1 hd⟩

variable {segments : List String} {steps : List Step}

theorem Leads.segments_eq (h : Leads t current pending segments steps) :
    steps.map (·.segment) = segments := by
  induction h with
  | here => rfl
  | next hm _ ih => rw [List.map_cons, hm.segment_eq, ih]

theorem Leads.length_eq (h : Leads t current pending segments steps) :
    steps.length = segments.length := by
  rw [← h.segments_eq, List.length_map]

theorem Leads.registered (h : Leads t current pending segments steps)
    (hc : t.named? current.name = some current) :
    ∀ x ∈ steps, t.named? x.target.name = some x.target := by
  induction h with
  | here => simp
  | next hm _ ih =>
    have hs := hm.registered hc
    exact List.forall_mem_cons.2 ⟨hs, ih hs⟩

/-- Each step is legal after the one before it. The induction is on the path, for every step
`prev?` that it may follow. -/
theorem Leads.legal {root : ClassInfo} (prev? : Option Step)
    (h : Leads t (classAfter root prev?) (inCollection prev?) segments steps) :
    ∀ (i : Nat) (x : Step), steps[i]? = some x →
      x.Legal t root (stepBefore? prev? steps i) (i + 1 = steps.length) := by
  induction segments generalizing prev? steps with
  | nil => cases h; simp
  | cons segment rest ih =>
    obtain _ | ⟨hm, hrest⟩ := h
    rename_i s more
    intro i x hx
    cases i with
    | zero =>
      obtain rfl : s = x := by simpa using hx
      have hlast : (rest.isEmpty = true) = (0 + 1 = (s :: more).length) := by
        simp [hrest.length_eq]
      rw [← hlast]
      exact hm.legal
    | succ i =>
      have hx' : more[i]? = some x := by simpa using hx
      have hlegal := ih (some s) hrest i x hx'
      have hbefore : stepBefore? prev? (s :: more) (i + 1) = stepBefore? (some s) more i := by
        cases i <;> rfl
      rw [hbefore]
      simpa using hlegal

end Walk

/-- The property at the end of a path is one of the class addressed, named by the last segment. -/
theorem Specifier.exists_segment {r : ClassRegistry} {path stem : String} {s : Specifier}
    {p : Property} (hs : resolve r path stem = .ok s) (hp : s.property? = some p) :
    ∃ t segment, r.table? = some t ∧ (Path.segments path).getLast? = some segment ∧
      t.named? s.target.name = some s.target ∧ s.target.property? segment = some p := by
  obtain ⟨t, ht, -, hroot, -, -, hl⟩ := resolve_ok_iff.1 hs
  obtain ⟨last, hlast, hproperty⟩ := Option.bind_eq_some_iff.1 hp
  have hlast : s.steps.getLast? = some last := hlast
  have htarget : s.target = last.target := by simp [target, last?, hlast]
  have hselection : last.selection = .property p := Step.property?_eq_some.1 hproperty
  have hlegal := Walk.Leads.legal none hl _ last (List.getLast?_eq_getElem? ▸ hlast)
  simp only [Step.Legal, hselection] at hlegal
  obtain ⟨-, hnamed, hclass⟩ := hlegal
  refine ⟨t, last.segment, ht, ?_, ?_, ?_⟩
  · rw [← hl.segments_eq, List.getLast?_map, hlast, Option.map_some]
  · rw [htarget]
    exact hl.registered (ClassTable.named?_of_lookup? hroot) last (List.mem_of_getLast? hlast)
  · rw [htarget, hclass, hnamed]

/-- **Followed paths are typed**: the chain starts at the class of the application, makes one legal
step for each segment of the path, in order, and ends in the class that its last step names. -/
theorem resolve_typed {r : ClassRegistry} {path stem : String} {s : Specifier}
    (h : resolve r path stem = .ok s) :
    ∃ t, r.table? = some t ∧ s.Typed t ∧ s.steps.map (·.segment) = Path.segments path := by
  obtain ⟨t, ht, hne, hroot, -, -, hl⟩ := resolve_ok_iff.1 h
  have hreg := hl.registered (ClassTable.named?_of_lookup? hroot)
  have hpos : s.steps ≠ [] := by
    intro hnil
    have := hl.segments_eq
    rw [hnil] at this
    exact hne this.symm
  have hlast : s.steps.getLast? = some (s.steps.getLast hpos) := List.getLast?_eq_some_getLast hpos
  have htarget : s.target = (s.steps.getLast hpos).target := by
    simp [Specifier.target, Specifier.last?, hlast]
  refine ⟨t, ht, ⟨hroot, Walk.Leads.legal none hl, hreg, ⟨_, hlast, ?_⟩, ?_⟩, hl.segments_eq⟩
  · rw [htarget]
    exact hreg _ (List.getLast_mem hpos)
  · simp only [Specifier.isProperty, Specifier.property?, Specifier.last?, hlast,
      Option.bind_some, Option.some.injEq, exists_and_left, exists_eq_left']
    unfold Step.property?
    split <;> simp_all

/-- A dictionary of playlists and their tracks. -/
def shelf : List ClassDecl := [
  ⟨"application", none, none, [⟨"name", "text", "r"⟩], ["playlist"]⟩,
  ⟨"playlist", none, none, [⟨"name", "text", "rw"⟩, ⟨"parent", "playlist", "r"⟩], ["track"]⟩,
  ⟨"track", none, none, [⟨"name", "text", "rw"⟩], []⟩]

/-- A path is followed over a loaded dictionary when the evaluation of both says so. -/
theorem exists_followed (cs : List ClassDecl) (path stem : String)
    (h : ((ClassRegistry.empty.load cs []).toOption.bind fun r =>
      (resolve r path stem).toOption).isSome = true) :
    ∃ r s, ClassRegistry.empty.load cs [] = .ok r ∧ resolve r path stem = .ok s := by
  obtain ⟨s, hs⟩ := Option.isSome_iff_exists.1 h
  obtain ⟨r, hr, hs⟩ := Option.bind_eq_some_iff.1 hs
  exact ⟨r, s, Outcome.toOption_eq_some.1 hr, Outcome.toOption_eq_some.1 hs⟩

theorem resolve_typed_name_of_every_track :
    ∃ r s t, ClassRegistry.empty.load shelf [] = .ok r ∧
      resolve r "/playlists/2/parent/tracks/name" "obj" = .ok s ∧ r.table? = some t ∧ s.Typed t ∧
      s.steps.map (·.segment) = ["playlists", "2", "parent", "tracks", "name"] := by
  obtain ⟨r, s, hr, hs⟩ :=
    exists_followed shelf "/playlists/2/parent/tracks/name" "obj" (by decide +kernel)
  obtain ⟨t, ht, hty, hseg⟩ := resolve_typed hs
  have hpath : Path.segments "/playlists/2/parent/tracks/name" =
      ["playlists", "2", "parent", "tracks", "name"] := by decide +kernel
  exact ⟨r, s, t, hr, hs, ht, hty, hseg.trans hpath⟩

end ScriptGateway
