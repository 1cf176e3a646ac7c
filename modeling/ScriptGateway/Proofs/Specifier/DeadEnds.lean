import ScriptGateway.Proofs.Path.Segments
import ScriptGateway.Proofs.Specifier.Moves

/-!
# Where paths end early

A path that cannot be followed stops at one of its segments, after the ones before it have been
passed (`Walk.steps_eq_error_iff`). It is refused there, unless the segment is a numeral too long to
be converted that stands for an element of a collection: then the path `Overruns`, and following it
is a fault (`resolve_settles_iff`).
-/

set_option autoImplicit false

namespace ScriptGateway

namespace Walk

/-- Segments of which none is the last one lead from what is at hand to what is at hand behind
them. -/
inductive Passes (t : ClassTable) : (current : ClassInfo) → (pending : Bool) → List String →
    (current' : ClassInfo) → (pending' : Bool) → Prop
  | here {current : ClassInfo} {pending : Bool} : Passes t current pending [] current pending
  | next {current current' : ClassInfo} {pending pending' : Bool} {segment : String}
      {front : List String} {s : Step} :
      Move t current pending segment false s →
      Passes t s.target s.isCollection front current' pending' →
      Passes t current pending (segment :: front) current' pending'

variable {t : ClassTable} {before : List String} {current : ClassInfo} {pending isLast : Bool}
  {segment : String}

/-! ## One segment -/

theorem element_eq_fault_iff {f : Fault} :
    element before current segment isLast = .error (.fault f) ↔
      ∃ n, Path.index? segment = .error n ∧ f = .tooLong n := by
  unfold element
  cases hi : Path.index? segment with
  | error n => simp [eq_comm]
  | ok n? =>
    cases n? with
    | some n =>
      simp only [reduceCtorEq, false_and, exists_false, iff_false]
      split <;> simp [deadEnd]
    | none =>
      simp only [reduceCtorEq, false_and, exists_false, iff_false]
      split
      · split <;> simp [deadEnd]
      · split <;> simp

theorem member_ne_fault (f : Fault) :
    member t before current segment isLast ≠ .error (.fault f) := by
  unfold member
  split
  · simp
  · split
    · simp
    · split
      · simp [deadEnd]
      · split <;> simp [deadEnd]

/-- The only fault of a step is a numeral that is too long, where an element is selected. -/
theorem step_eq_fault_iff {f : Fault} :
    step t before current pending segment isLast = .error (.fault f) ↔
      pending = true ∧ ∃ n, Path.index? segment = .error n ∧ f = .tooLong n := by
  unfold step
  cases hb : Text.blank segment with
  | true =>
    simp only [ite_true, deadEnd, Except.error.injEq, reduceCtorEq, false_iff]
    rintro ⟨-, n, hn, -⟩
    obtain ⟨numeral, hnumeral, -⟩ := Path.index?_eq_error_iff.1 hn
    rw [Path.blank_of_numeral hnumeral] at hb
    cases hb
  | false =>
    cases pending with
    | true => simp [Outcome.map_eq_error, element_eq_fault_iff]
    | false => simp [member_ne_fault]

theorem element_eq_refused {r : Refusal}
    (h : element before current segment isLast = .error (.refused r)) :
    ∃ reason, r = .unresolved ⟨segment, Path.along before, reason⟩ := by
  unfold element at h
  split at h
  · cases h
  · split at h
    · cases h; exact ⟨_, rfl⟩
    · cases h
  · split at h
    · split at h
      · cases h; exact ⟨_, rfl⟩
      · cases h
    · split at h <;> cases h

theorem member_eq_refused {r : Refusal}
    (h : member t before current segment isLast = .error (.refused r)) :
    ∃ reason, r = .unresolved ⟨segment, Path.along before, reason⟩ := by
  unfold member at h
  split at h
  · cases h
  · split at h
    · cases h
    · split at h
      · cases h; exact ⟨_, rfl⟩
      · split at h
        · cases h
        · cases h; exact ⟨_, rfl⟩

/-- The only refusal of a step is that its segment leads nowhere, and it names the segment. -/
theorem step_eq_refused {r : Refusal}
    (h : step t before current pending segment isLast = .error (.refused r)) :
    ∃ reason, r = .unresolved ⟨segment, Path.along before, reason⟩ := by
  unfold step at h
  split at h
  · cases h; exact ⟨_, rfl⟩
  · split at h
    · exact element_eq_refused (Outcome.map_eq_error.1 h)
    · exact member_eq_refused h

/-! ## Whole paths -/

/-- A walk stops at one segment, after it has passed the ones before. The induction is on the path,
for every row of segments in front of it. -/
theorem steps_eq_error_iff {segments : List String} {p : Problem} :
    steps t before current pending segments = .error p ↔
      ∃ front segment rest current' pending', segments = front ++ segment :: rest ∧
        Passes t current pending front current' pending' ∧
        step t (before ++ front) current' pending' segment rest.isEmpty = .error p := by
  induction segments generalizing before current pending with
  | nil => simp [steps]
  | cons segment rest ih =>
    simp only [steps, Outcome.bind_eq_error, step_ok_iff, ih, pure, Except.pure, reduceCtorEq,
      and_false, exists_false, or_false]
    constructor
    · rintro (hstop | ⟨s, hmove, front, segment', rest', current', pending', rfl, hpass, hstop⟩)
      · exact ⟨[], segment, rest, current, pending, rfl, .here, by simpa using hstop⟩
      · have hmore : (front ++ segment' :: rest').isEmpty = false := by simp
        rw [hmore] at hmove
        exact ⟨segment :: front, segment', rest', current', pending', rfl, .next hmove hpass,
          by simpa using hstop⟩
    · rintro ⟨front, segment', rest', current', pending', heq, hpass, hstop⟩
      cases hpass with
      | here =>
        obtain ⟨rfl, rfl⟩ := List.cons.inj heq
        exact .inl (by simpa using hstop)
      | @next _ _ _ _ _ front s hmove hpass =>
        obtain ⟨rfl, rfl⟩ := List.cons.inj heq
        have hmore : (front ++ segment' :: rest').isEmpty = false := by simp
        rw [← hmore] at hmove
        exact .inr ⟨s, hmove, front, segment', rest', current', pending', rfl, hpass,
          by simpa using hstop⟩

end Walk

/-! ## Paths that overrun -/

/-- Following the path comes to a collection and then to a numeral that is too long. -/
def ClassRegistry.Overruns (r : ClassRegistry) (path : String) : Prop :=
  ∃ t root front segment rest current, r.table? = some t ∧
    t.lookup? ClassTable.rootName = some root ∧ Path.segments path = front ++ segment :: rest ∧
    Walk.Passes t root false front current true ∧ Path.Overlong segment

variable {r : ClassRegistry} {t : ClassTable} {root : ClassInfo} {path stem : String}

theorem resolve_eq_steps (ht : r.table? = some t)
    (hroot : t.lookup? ClassTable.rootName = some root) (hne : Path.segments path ≠ []) :
    resolve r path stem = (Walk.steps t [] root false (Path.segments path)).map fun steps =>
      ⟨path, stem, root, steps⟩ := by
  have htable : r.table.mapError Problem.fault = .ok t :=
    Outcome.mapError_eq_ok.2 (table_ok_iff.2 ht)
  have hclass : t.root.mapError Problem.fault = .ok root :=
    Outcome.mapError_eq_ok.2 (root_ok_iff.2 hroot)
  have hsome : (Path.segments path).isEmpty = false := by simpa using hne
  simp only [resolve, htable, hsome, bind, Except.bind, hclass, Bool.false_eq_true, ite_false]
  cases Walk.steps t [] root false (Path.segments path) <;> rfl

theorem resolve_not_loaded (ht : r.table? = none) :
    resolve r path stem = .error (.fault (.notLoaded .classes)) := by
  have htable : r.table.mapError Problem.fault = .error (.fault (.notLoaded .classes)) := by
    simp [ClassRegistry.table, ht, Except.mapError]
  simp [resolve, htable, bind, Except.bind]

theorem resolve_no_segments (ht : r.table? = some t) (hnil : Path.segments path = []) :
    resolve r path stem = .error (.refused (.unresolved ⟨"", "", .noSegments⟩)) := by
  have htable : r.table.mapError Problem.fault = .ok t :=
    Outcome.mapError_eq_ok.2 (table_ok_iff.2 ht)
  simp [resolve, htable, hnil, throw, throwThe, MonadExceptOf.throw, bind, Except.bind]

theorem lookup?_isSome_iff {name : String} :
    (r.lookup? name).isSome = true ↔ ∃ t c, r.table? = some t ∧ t.lookup? name = some c := by
  simp only [ClassRegistry.lookup?, Option.isSome_iff_exists, Option.bind_eq_some_iff]
  exact exists_comm

/-- Over a table with an application class, following a path is a fault exactly when the path
overruns. -/
theorem resolve_eq_fault_iff (hroot : (r.lookup? ClassTable.rootName).isSome = true) :
    (∃ f, resolve r path stem = .error (.fault f)) ↔ r.Overruns path := by
  obtain ⟨t, root, ht, hroot⟩ := lookup?_isSome_iff.1 hroot
  by_cases hnil : Path.segments path = []
  · rw [resolve_no_segments ht hnil]
    constructor
    · rintro ⟨f, hf⟩
      cases hf
    · rintro ⟨t', root', front, segment, rest, current, -, -, hsegs, -⟩
      rw [hnil] at hsegs
      cases front <;> cases hsegs
  · simp only [resolve_eq_steps ht hroot hnil, Outcome.map_eq_error, Walk.steps_eq_error_iff,
      Walk.step_eq_fault_iff]
    constructor
    · rintro ⟨f, front, segment, rest, current, pending, hsegs, hpass, rfl, n, hn, -⟩
      exact ⟨t, root, front, segment, rest, current, ht, hroot, hsegs, hpass,
        Path.exists_index?_error_iff.1 ⟨n, hn⟩⟩
    · rintro ⟨t', root', front, segment, rest, current, ht', hroot', hsegs, hpass, hlong⟩
      obtain rfl : t = t' := Option.some.inj (ht.symm.trans ht')
      obtain rfl : root = root' := Option.some.inj (hroot.symm.trans hroot')
      obtain ⟨n, hn⟩ := Path.exists_index?_error_iff.2 hlong
      exact ⟨.tooLong n, front, segment, rest, current, true, hsegs, hpass, rfl, n, hn, rfl⟩

/-- A path of some segments is refused where its walk is refused one of them. -/
theorem resolve_eq_refused_iff {refusal : Refusal} (hne : Path.segments path ≠ []) :
    resolve r path stem = .error (.refused refusal) ↔
      ∃ t root front segment rest current pending, r.table? = some t ∧
        t.lookup? ClassTable.rootName = some root ∧ Path.segments path = front ++ segment :: rest ∧
        Walk.Passes t root false front current pending ∧
        Walk.step t front current pending segment rest.isEmpty = .error (.refused refusal) := by
  constructor
  · intro h
    cases ht : r.table? with
    | none =>
      rw [resolve_not_loaded ht] at h
      cases h
    | some t =>
      cases hroot : t.lookup? ClassTable.rootName with
      | none =>
        have htable : r.table.mapError Problem.fault = .ok t :=
          Outcome.mapError_eq_ok.2 (table_ok_iff.2 ht)
        have hclass : t.root.mapError Problem.fault =
            .error (.fault (.definition ClassTable.rootName .noRootClass)) := by
          simp [ClassTable.root, hroot, Except.mapError]
        simp [resolve, htable, hne, hclass, bind, Except.bind] at h
      | some root =>
        rw [resolve_eq_steps ht hroot hne, Outcome.map_eq_error] at h
        obtain ⟨front, segment, rest, current, pending, hsegs, hpass, hstop⟩ :=
          Walk.steps_eq_error_iff.1 h
        exact ⟨t, root, front, segment, rest, current, pending, rfl, hroot, hsegs, hpass, hstop⟩
  · rintro ⟨t, root, front, segment, rest, current, pending, ht, hroot, hsegs, hpass, hstop⟩
    rw [resolve_eq_steps ht hroot hne, Outcome.map_eq_error]
    exact Walk.steps_eq_error_iff.2
      ⟨front, segment, rest, current, pending, hsegs, hpass, hstop⟩

theorem resolve_eq_refused {refusal : Refusal}
    (h : resolve r path stem = .error (.refused refusal)) : ∃ u, refusal = .unresolved u := by
  by_cases hnil : Path.segments path = []
  · cases ht : r.table? with
    | none =>
      rw [resolve_not_loaded ht] at h
      cases h
    | some t =>
      rw [resolve_no_segments ht hnil] at h
      cases h
      exact ⟨_, rfl⟩
  · obtain ⟨_, _, _, _, _, _, _, -, -, -, -, hstop⟩ := (resolve_eq_refused_iff hnil).1 h
    obtain ⟨reason, rfl⟩ := Walk.step_eq_refused hstop
    exact ⟨_, rfl⟩

/-- A path is followed, or a segment is named at which it leads nowhere, unless it overruns. -/
theorem resolve_settles_iff (hroot : (r.lookup? ClassTable.rootName).isSome = true) :
    ((∃ s, resolve r path stem = .ok s) ∨
        ∃ u, resolve r path stem = .error (.refused (.unresolved u))) ↔ ¬ r.Overruns path := by
  have hfault : (∃ f, resolve r path stem = .error (.fault f)) ↔ r.Overruns path :=
    resolve_eq_fault_iff hroot
  rw [← hfault]
  cases h : resolve r path stem with
  | ok s => simp
  | error p =>
    cases p with
    | fault f => simp
    | refused refusal =>
      obtain ⟨u, rfl⟩ := resolve_eq_refused h
      simp

end ScriptGateway
