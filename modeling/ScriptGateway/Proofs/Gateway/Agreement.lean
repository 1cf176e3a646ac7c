import ScriptGateway.Proofs.Gateway.Readiness

/-!
# One outcome for everyone who waits

Tasks may wait at a barrier before, during and after the load, and several may call for it. The
first call alone starts a loader; every other one is turned away and leaves the barrier as it was.
Until the first call has ended nobody who waits has, and from then on everyone who waits ends in the
same way, in the order of arrival (`waits_agree`).

What carries the proof is how far a run has come (`Course`), which every step keeps
(`Course.step`): the events so far tell the state of the barrier and what has ended, but for the
tables and the cause that the load leaves.
-/

set_option autoImplicit false

namespace ScriptGateway

/-- The task that calls for a load. -/
@[simp] def Event.populate? : Event → Option TaskId
  | .populate p => some p
  | _ => none

/-- The task that asks to be held back. -/
@[simp] def Event.wait? : Event → Option TaskId
  | .wait w => some w
  | _ => none

/-- The task called for a load that somebody else had called for. -/
def Finished.isTurnedAway (f : Finished) : Bool := f.fault = some (.alreadyLoaded .barrier)

namespace Barrier

/-- A barrier that nobody has used, over tables in any state. -/
def unused (rs : Registries) : Barrier := ⟨rs, .idle, []⟩

/-- The tasks that call for a load along a row of events, in order. -/
def populates (es : List Event) : List TaskId := es.filterMap Event.populate?

/-- The tasks that wait along a row of events, in order. -/
def waits (es : List Event) : List TaskId := es.filterMap Event.wait?

theorem populates_concat (es : List Event) (e : Event) :
    populates (es ++ [e]) = populates es ++ e.populate?.toList := by
  cases e <;> simp [populates]

theorem waits_concat (es : List Event) (e : Event) :
    waits (es ++ [e]) = waits es ++ e.wait?.toList := by
  cases e <;> simp [waits]

/-- The end of a task that the load has held up. -/
def released (cause : Option Fault) (tables : Registries) (task : TaskId) : Finished :=
  ⟨task, waitFault cause, tables⟩

/-- The end of a task that was turned away. -/
def turnedAway (tables : Registries) (task : TaskId) : Finished :=
  ⟨task, some (.alreadyLoaded .barrier), tables⟩

@[simp] theorem isTurnedAway_released (cause : Option Fault) (tables : Registries)
    (task : TaskId) : (released cause tables task).isTurnedAway = false := by
  cases cause <;> simp [released, waitFault, Finished.isTurnedAway]

/-- How far a run over the tables `rs` has come: the state of the barrier, and the tasks that have
ended, but for those turned away. The first task that called for the load stands before those that
waited for it; it has no end of its own when it was cancelled. -/
inductive Course (rs : Registries) (es : List Event) : Barrier → List Finished → Prop
  | idle {held : List TaskId} : populates es = [] → held = waits es →
      Course rs es ⟨rs, .idle, held⟩ []
  | loading {p : TaskId} {later held : List TaskId} : populates es = p :: later →
      held = waits es → Course rs es ⟨rs, .loading p, held⟩ []
  | ended {p : TaskId} {later : List TaskId} {tables : Registries} {cause : Option Fault}
      {own told : List Finished} : populates es = p :: later →
      own = [released cause tables p] ∨ own = [] ∧ .cancelled p ∈ es →
      told = own ++ (waits es).map (released cause tables) →
      Course rs es ⟨tables, .ended cause, []⟩ told

/-- The tasks that end at a step, but for those turned away. -/
def endings (b : Barrier) (e : Event) : List Finished := (b.step e).2.filter (!·.isTurnedAway)

namespace Course

variable {rs : Registries} {es : List Event} {b : Barrier} {told : List Finished}

theorem step_idle {held : List TaskId} (hnone : populates es = []) (hheld : held = waits es)
    (e : Event) :
    Course rs (es ++ [e]) (step ⟨rs, .idle, held⟩ e).1 (endings ⟨rs, .idle, held⟩ e) := by
  cases e with
  | wait w => exact .idle (by simp [populates_concat, hnone]) (by simp [waits_concat, hheld])
  | populate p =>
    have hfirst : populates (es ++ [.populate p]) = [p] := by simp [populates_concat, hnone]
    exact .loading hfirst (by simp [waits_concat, hheld])
  | delivered p x =>
    exact .idle (by simp [populates_concat, hnone]) (by simp [waits_concat, hheld])
  | cancelled p => exact .idle (by simp [populates_concat, hnone]) (by simp [waits_concat, hheld])

theorem step_loading {p : TaskId} {later held : List TaskId} (hfirst : populates es = p :: later)
    (hheld : held = waits es) (e : Event) :
    Course rs (es ++ [e]) (step ⟨rs, .loading p, held⟩ e).1 (endings ⟨rs, .loading p, held⟩ e) := by
  have hfirst' : populates (es ++ [e]) = p :: (later ++ e.populate?.toList) := by
    rw [populates_concat, hfirst, List.cons_append]
  cases e with
  | wait w => exact .loading hfirst' (by simp [waits_concat, hheld])
  | populate q => exact .loading hfirst' (by simp [waits_concat, hheld])
  | delivered q x =>
    -- the loader of the first call ends the load, and lets go of everyone held back so far
    by_cases hq : q = p
    · subst hq
      have hstep : step ⟨rs, .loading q, held⟩ (.delivered q x) =
          (⟨(rs.receive x).1, .ended (rs.receive x).2, []⟩,
            released (rs.receive x).2 (rs.receive x).1 q ::
              held.map (released (rs.receive x).2 (rs.receive x).1)) := by
        simp [step, finish, released]
      rw [endings, hstep]
      refine .ended hfirst' (.inl rfl) ?_
      simp [waits_concat, hheld, List.filter_map, Function.comp_def]
    · have hstep : step ⟨rs, .loading p, held⟩ (.delivered q x) = (⟨rs, .loading p, held⟩, []) := by
        simp [step, hq]
      rw [endings, hstep]
      exact .loading hfirst' (by simp [waits_concat, hheld])
  | cancelled q =>
    by_cases hq : q = p
    · subst hq
      have hstep : step ⟨rs, .loading q, held⟩ (.cancelled q) =
          (⟨rs, .ended none, []⟩, held.map (released none rs)) := by
        simp [step, finish, released]
      rw [endings, hstep]
      refine .ended hfirst' (.inr ⟨rfl, by simp⟩) ?_
      simp [waits_concat, hheld, List.filter_map, Function.comp_def]
    · have hstep : step ⟨rs, .loading p, held⟩ (.cancelled q) = (⟨rs, .loading p, held⟩, []) := by
        simp [step, hq]
      rw [endings, hstep]
      exact .loading hfirst' (by simp [waits_concat, hheld])

theorem step_ended {p : TaskId} {later : List TaskId} {tables : Registries} {cause : Option Fault}
    {own : List Finished} (hfirst : populates es = p :: later)
    (hown : own = [released cause tables p] ∨ own = [] ∧ .cancelled p ∈ es)
    (htold : told = own ++ (waits es).map (released cause tables)) (e : Event) :
    Course rs (es ++ [e]) (step ⟨tables, .ended cause, []⟩ e).1
      (told ++ endings ⟨tables, .ended cause, []⟩ e) := by
  have hfirst' : populates (es ++ [e]) = p :: (later ++ e.populate?.toList) := by
    rw [populates_concat, hfirst, List.cons_append]
  have hown' : own = [released cause tables p] ∨ own = [] ∧ .cancelled p ∈ es ++ [e] :=
    hown.imp_right fun h => ⟨h.1, List.mem_append_left _ h.2⟩
  have hendings : endings ⟨tables, .ended cause, []⟩ e =
      e.wait?.toList.map (released cause tables) := by
    cases e with
    | wait w => exact List.filter_cons_of_pos (by rw [← released, isTurnedAway_released]; rfl)
    | populate q => rfl
    | delivered q x => rfl
    | cancelled q => rfl
  have htold' : told ++ endings ⟨tables, .ended cause, []⟩ e =
      own ++ (waits (es ++ [e])).map (released cause tables) := by
    rw [hendings, htold, waits_concat, List.map_append, List.append_assoc]
  cases e with
  | wait w => exact .ended hfirst' hown' htold'
  | populate q => exact .ended hfirst' hown' htold'
  | delivered q x => exact .ended hfirst' hown' htold'
  | cancelled q => exact .ended hfirst' hown' htold'

/-- Every step takes a run further. -/
theorem step (h : Course rs es b told) (e : Event) :
    Course rs (es ++ [e]) (b.step e).1 (told ++ endings b e) := by
  cases h with
  | idle hnone hheld => exact step_idle hnone hheld e
  | loading hfirst hheld => exact step_loading hfirst hheld e
  | ended hfirst hown htold => exact step_ended hfirst hown htold e

end Course

/-- The tasks that have ended along a run, but for those turned away. -/
def told (b : Barrier) (es : List Event) : List Finished :=
  (b.log es).filter (!·.isTurnedAway)

theorem course (rs : Registries) (es : List Event) :
    Course rs es ((unused rs).run es) ((unused rs).told es) := by
  -- from the end, since a step adds to a run that has come this far
  induction es using List.reverseRecOn with
  | nil => exact .idle rfl rfl
  | append_singleton es e ih =>
    rw [run_concat, told, log_concat, List.filter_append]
    exact ih.step e

/-- A barrier is idle as long as nobody has called for the load. -/
theorem phase_eq_idle_iff (rs : Registries) (es : List Event) :
    ((unused rs).run es).phase = .idle ↔ populates es = [] := by
  have hcourse := course rs es
  generalize (unused rs).run es = b, (unused rs).told es = told at hcourse
  cases hcourse with
  | idle hnone => simp [hnone]
  | loading hfirst => simp [hfirst]
  | ended hfirst => simp [hfirst]

/-! ## Tasks turned away -/

/-- Once the load has been called for, a step turns away the task that calls for it and no
other. -/
theorem filter_step {b : Barrier} (h : b.phase ≠ .idle) (e : Event) :
    (b.step e).2.filter (·.isTurnedAway) = e.populate?.toList.map (turnedAway b.registries) := by
  obtain ⟨tables, phase, held⟩ := b
  have hreleased (cause : Option Fault) (t : Registries) (ws : List TaskId) :
      (ws.map (released cause t)).filter (·.isTurnedAway) = [] := by
    simp [List.filter_map, Function.comp_def]
  cases phase with
  | idle => exact absurd rfl h
  | loading p =>
    cases e with
    | wait w => rfl
    | populate q => rfl
    | delivered q x =>
      simp only [step]
      split
      · exact hreleased _ _ (q :: held)
      · rfl
    | cancelled q =>
      simp only [step]
      split
      · exact hreleased none tables held
      · rfl
  | ended cause =>
    cases e with
    | wait w => exact hreleased cause tables [w]
    | populate q => rfl
    | delivered q x => rfl
    | cancelled q => rfl

/-- The tasks turned away are those that called for the load after the first one. -/
theorem tasks_turnedAway (rs : Registries) (es : List Event) :
    (((unused rs).log es).filter (·.isTurnedAway)).map (·.task) = (populates es).tail := by
  induction es using List.reverseRecOn with
  | nil => rfl
  | append_singleton es e ih =>
    rw [log_concat, List.filter_append, List.map_append, ih, populates_concat]
    have hidle := phase_eq_idle_iff rs es
    cases hpopulates : populates es with
    | nil =>
      generalize (unused rs).run es = b at hidle
      obtain ⟨tables, phase, held⟩ := b
      obtain rfl : phase = .idle := hidle.2 hpopulates
      cases e with
      | wait w => rfl
      | populate p => rfl
      | delivered p x => rfl
      | cancelled p => rfl
    | cons p later =>
      have hcalled : ((unused rs).run es).phase ≠ .idle := by simp [hidle, hpopulates]
      rw [filter_step hcalled, List.map_map]
      exact congrArg (later ++ ·) (List.map_id _)

/-! ## One outcome -/

/-- A run over the tables `rs` gives everyone who waits the same outcome (module doc). -/
structure Agreed (rs : Registries) (es : List Event) : Prop where
  /-- While the load has not ended, the tasks that have were turned away. -/
  held : (∀ cause, ((unused rs).run es).phase ≠ .ended cause) → (unused rs).told es = []
  /-- Once it has ended, everyone who has waited has ended after the task that called for it first,
  and in the same way. -/
  released : ∀ cause, ((unused rs).run es).phase = .ended cause → ∃ p own,
    (populates es).head? = some p ∧
    (own = [Barrier.released cause ((unused rs).run es).registries p] ∨
      own = [] ∧ .cancelled p ∈ es) ∧
    (unused rs).told es =
      own ++ (waits es).map (Barrier.released cause ((unused rs).run es).registries)
  /-- A loader works for the task that called for the load first, and for no other. -/
  first : ∀ p, ((unused rs).run es).phase = .loading p → (populates es).head? = some p
  /-- A later call for the load leaves everything as it was. -/
  later : populates es ≠ [] → ∀ p, ((unused rs).run es).step (.populate p) =
    ((unused rs).run es, [Barrier.turnedAway ((unused rs).run es).registries p])
  turnedAway : (((unused rs).log es).filter (·.isTurnedAway)).map (·.task) = (populates es).tail

/-- A later call for the load finds the barrier called for, and leaves it so. -/
theorem step_populate_later {rs : Registries} {es : List Event} (h : populates es ≠ [])
    (p : TaskId) : ((unused rs).run es).step (.populate p) =
      ((unused rs).run es, [turnedAway ((unused rs).run es).registries p]) := by
  cases hphase : ((unused rs).run es).phase with
  | idle => exact absurd ((phase_eq_idle_iff rs es).1 hphase) h
  | loading q => simp [step, hphase, turnedAway]
  | ended cause => simp [step, hphase, turnedAway]

/-- **Everyone who waits ends in the same way**, in every run over whatever tables: not before the
first call for the load has ended, and then as it did. Every other call for the load is turned away
without a trace. -/
theorem waits_agree (rs : Registries) (es : List Event) : Agreed rs es := by
  have hcourse := course rs es
  refine ⟨fun hrunning => ?_, fun cause hended => ?_, fun p hloading => ?_,
    step_populate_later, tasks_turnedAway rs es⟩
  all_goals generalize (unused rs).run es = b, (unused rs).told es = told at *
  · cases hcourse with
    | idle => rfl
    | loading => rfl
    | ended => exact absurd rfl (hrunning _)
  · cases hcourse with
    | idle => cases hended
    | loading => cases hended
    | ended hfirst hown htold =>
      obtain rfl := Phase.ended.inj hended
      exact ⟨_, _, congrArg List.head? hfirst, hown, htold⟩
  · cases hcourse with
    | idle => cases hloading
    | loading hfirst =>
      obtain rfl := Phase.loading.inj hloading
      exact congrArg List.head? hfirst
    | ended => cases hloading

/-- One waits before the load fails, one after it; a second call for the load is turned away. -/
example : (unused .empty).told [.wait "early", .populate "load", .populate "again",
    .delivered "load" (.error (.system "gone")), .wait "late"] =
      ["load", "early", "late"].map (released (some (.system "gone")) .empty) := rfl

end Barrier

end ScriptGateway
