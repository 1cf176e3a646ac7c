import ScriptGateway.Proofs.Outcome
import ScriptGateway.Specifier.Resolve

/-!
# The rules of a walk

`Walk.Move` lists the steps that a segment may make, one rule for each, and `Walk.Leads` the rows of
steps that a row of segments may make. Following a path is deciding these relations:

* `step_ok_iff`, `steps_ok_iff`: a step or a row of steps is returned exactly when the rules allow
  it, whatever segments stand before it.
* `resolve_ok_iff`: a path is followed exactly when its segments lead from the class of the
  application.
-/

set_option autoImplicit false

namespace ScriptGateway

namespace Walk

/-- The step that a segment makes from `current`, the class of the object at hand or, if `pending`,
of the elements of the collection at hand. -/
inductive Move (t : ClassTable) (current : ClassInfo) :
    (pending : Bool) → (segment : String) → (isLast : Bool) → Step → Prop
  | index {segment : String} {isLast : Bool} {n : Int} :
      Text.blank segment = false → Path.index? segment = .ok (some n) → 1 ≤ n →
      Move t current true segment isLast ⟨segment, .index n.toNat, current⟩
  | quoted {segment name : String} {isLast : Bool} :
      Text.blank segment = false → Path.index? segment = .ok none →
      Path.quotedName? segment = some name → name ≠ "" →
      Move t current true segment isLast ⟨segment, .name name, current⟩
  /-- A property read across the collection. -/
  | across {segment : String} {p : Property} :
      Text.blank segment = false → Path.index? segment = .ok none →
      Path.quotedName? segment = none → current.property? segment = some p →
      Move t current true segment true ⟨segment, .property p, current⟩
  | bare {segment : String} {isLast : Bool} :
      Text.blank segment = false → Path.index? segment = .ok none →
      Path.quotedName? segment = none → (isLast = true → current.property? segment = none) →
      Move t current true segment isLast ⟨segment, .name segment, current⟩
  | property {segment : String} {p : Property} :
      Text.blank segment = false → current.property? segment = some p →
      Move t current false segment true ⟨segment, .property p, current⟩
  | collection {segment : String} {isLast : Bool} {c : ClassInfo} :
      Text.blank segment = false → (isLast = true → current.property? segment = none) →
      t.elementClass? current segment = some c →
      Move t current false segment isLast ⟨segment, .collection, c⟩
  | descend {segment : String} {p : Property} {c : ClassInfo} :
      Text.blank segment = false → t.elementClass? current segment = none →
      current.property? segment = some p → t.propertyClass? p = some c →
      Move t current false segment false ⟨segment, .objectProperty p, c⟩

/-- The steps that a row of segments makes. -/
inductive Leads (t : ClassTable) : (current : ClassInfo) → (pending : Bool) →
    List String → List Step → Prop
  | here {current : ClassInfo} {pending : Bool} : Leads t current pending [] []
  | next {current : ClassInfo} {pending : Bool} {segment : String} {rest : List String} {s : Step}
      {more : List Step} :
      Move t current pending segment rest.isEmpty s → Leads t s.target s.isCollection rest more →
      Leads t current pending (segment :: rest) (s :: more)

variable {t : ClassTable} {before : List String} {current : ClassInfo} {pending isLast : Bool}
  {segment : String} {s : Step}

/-! ## One segment -/

theorem element_ok_iff {sel : Selection} :
    Text.blank segment = false ∧ element before current segment isLast = .ok sel ↔
      Move t current true segment isLast ⟨segment, sel, current⟩ := by
  constructor
  · rintro ⟨hb, h⟩
    unfold element at h
    split at h
    · cases h
    · rename_i n hi
      split at h
      · cases h
      · cases h; exact .index hb hi (by omega)
    · rename_i hi
      split at h
      · rename_i name hq
        split at h
        · cases h
        · rename_i hne
          cases h
          exact .quoted hb hi hq (by simpa using hne)
      · rename_i hq
        split at h
        · rename_i p hp
          cases isLast with
          | true => cases h; exact .across hb hi hq hp
          | false => cases h; exact .bare hb hi hq (by simp)
        · rename_i hp
          cases h
          exact .bare hb hi hq fun _ => hp
  · intro h
    unfold element
    cases h with
    | index hb hi hn => simp [hb, hi, Int.not_lt.2 hn]
    | quoted hb hi hq hne => simp [hb, hi, hq, hne]
    | across hb hi hq hp => simp [hb, hi, hq, hp]
    | bare hb hi hq hp =>
      refine ⟨hb, ?_⟩
      cases isLast with
      | true => simp [hi, hq, hp rfl]
      | false => simp only [hi, hq]; split <;> rfl

theorem member_ok_iff (before : List String) :
    Text.blank segment = false ∧ member t before current segment isLast = .ok s ↔
      Move t current false segment isLast s := by
  constructor
  · rintro ⟨hb, h⟩
    unfold member at h
    cases hp : current.property? segment with
    | none =>
      simp only [hp] at h
      split at h
      · rename_i c hc
        cases h; exact .collection hb (fun _ => hp) hc
      · cases h
    | some p =>
      cases isLast with
      | true =>
        simp only [hp, Except.ok.injEq] at h
        subst h; exact .property hb hp
      | false =>
        simp only [hp] at h
        split at h
        · rename_i c hc
          cases h; exact .collection hb (by simp) hc
        · rename_i hc
          split at h
          · rename_i d hd
            cases h; exact .descend hb hc hp hd
          · cases h
  · intro h
    unfold member
    cases h with
    | property hb hp => simp [hb, hp]
    | collection hb hlast hc =>
      refine ⟨hb, ?_⟩
      cases isLast with
      | true => simp [hlast rfl, hc]
      | false => simp [hc]
    | descend hb hc hp hd => simp [hb, hc, hp, hd]

theorem step_ok_iff :
    step t before current pending segment isLast = .ok s ↔
      Move t current pending segment isLast s := by
  unfold step
  cases hb : Text.blank segment with
  | true =>
    simp only [ite_true, reduceCtorEq, false_iff]
    intro h
    cases h <;> simp_all
  | false =>
    cases pending with
    | true =>
      simp only [Bool.false_eq_true, ite_false, ite_true, Outcome.map_eq_ok]
      constructor
      · rintro ⟨sel, h, rfl⟩
        exact element_ok_iff.1 ⟨hb, h⟩
      · intro h
        refine ⟨s.selection, ?_, by cases h <;> rfl⟩
        have hs : s = ⟨segment, s.selection, current⟩ := by cases h <;> rfl
        rw [hs] at h
        exact (element_ok_iff.2 h).2
    | false =>
      simp only [Bool.false_eq_true, ite_false]
      rw [← member_ok_iff before]
      simp [hb]

/-! ## Whole paths -/

theorem steps_ok_iff {segments : List String} {more : List Step} :
    steps t before current pending segments = .ok more ↔
      Leads t current pending segments more := by
  induction segments generalizing before current pending more with
  | nil =>
    simp only [steps, Except.ok.injEq]
    exact ⟨fun h => h ▸ .here, fun h => by cases h; rfl⟩
  | cons segment rest ih =>
    simp only [steps, Outcome.bind_eq_ok, step_ok_iff, ih, pure, Except.pure, Except.ok.injEq]
    constructor
    · rintro ⟨s, hs, more', hmore, rfl⟩
      exact .next hs hmore
    · rintro (_ | ⟨hs, hmore⟩)
      exact ⟨_, hs, _, hmore, rfl⟩

end Walk

theorem root_ok_iff {t : ClassTable} {c : ClassInfo} :
    t.root = .ok c ↔ t.lookup? ClassTable.rootName = some c := by
  unfold ClassTable.root
  cases t.lookup? ClassTable.rootName <;> simp

theorem table_ok_iff {r : ClassRegistry} {t : ClassTable} :
    r.table = .ok t ↔ r.table? = some t := by
  unfold ClassRegistry.table
  cases r.table? <;> simp

theorem resolve_ok_iff {r : ClassRegistry} {path stem : String} {s : Specifier} :
    resolve r path stem = .ok s ↔
      ∃ t, r.table? = some t ∧ Path.segments path ≠ [] ∧
        t.lookup? ClassTable.rootName = some s.root ∧ s.path = path ∧ s.stem = stem ∧
        Walk.Leads t s.root false (Path.segments path) s.steps := by
  unfold resolve
  simp only [Outcome.bind_eq_ok, Outcome.mapError_eq_ok, table_ok_iff, pure, Except.pure]
  refine exists_congr fun t => and_congr_right fun _ => ?_
  cases hsegs : Path.segments path with
  | nil => simp [throw, throwThe, MonadExceptOf.throw, bind, Except.bind]
  | cons segment rest =>
    simp only [List.isEmpty_cons, Bool.false_eq_true, ite_false, Outcome.bind_eq_ok,
      Outcome.mapError_eq_ok, root_ok_iff, Walk.steps_ok_iff, Except.ok.injEq]
    constructor
    · rintro ⟨root, hroot, steps, hsteps, rfl⟩
      exact ⟨by simp, hroot, rfl, rfl, hsteps⟩
    · rintro ⟨-, hroot, rfl, rfl, hsteps⟩
      exact ⟨s.root, hroot, s.steps, hsteps, rfl⟩

/-- A path is followed in the same way under every stem. -/
theorem resolve_restem {r : ClassRegistry} {path stem : String} {s : Specifier}
    (h : resolve r path stem = .ok s) (stem' : String) :
    resolve r path stem' = .ok { s with stem := stem' } := by
  obtain ⟨t, ht, hne, hroot, hpath, -, hl⟩ := resolve_ok_iff.1 h
  exact resolve_ok_iff.2 ⟨t, ht, hne, hroot, hpath, rfl, hl⟩

end ScriptGateway
