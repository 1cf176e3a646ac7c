import Mathlib.Data.List.Induction
import ScriptGateway.Gateway.Readiness
import ScriptGateway.Proofs.Outcome

/-!
# What the barrier promises

Runs of a barrier are rows of events in any order, of any number of tasks. A run is `Safe` when the
barrier is ready only over filled tables, and when every task that goes on without a fault does so
over the tables of the one dictionary that the loader delivered.

One event at most ends the load (`EndedBy`, `EndedBy.unique`), and it alone decides on the tables
and the cause from then on (`EndedBy.run_eq`). A delivery fills the tables or leaves a cause; a
cancellation does neither. So the safe runs are those whose load is not cut short (`safe_iff`).
-/

set_option autoImplicit false

namespace ScriptGateway

/-! ## Filled tables -/

namespace Registries

/-- Both tables have been loaded. -/
def Filled (rs : Registries) : Prop :=
  rs.classes.isLoaded = true ∧ rs.commands.isLoaded = true

variable {r rs : Registries} {d : Dictionary}

theorem load_eq_none_iff :
    r.load d = (rs, none) ↔ r.classes.load d.classes d.enumerations = .ok rs.classes ∧
      r.commands.load d.commands d.classNames = .ok rs.commands := by
  unfold load
  cases hclasses : r.classes.load d.classes d.enumerations with
  | error f => simp
  | ok classes =>
    cases hcommands : r.commands.load d.commands d.classNames with
    | error f => simp
    | ok commands =>
      simp only [Prod.mk.injEq, and_true, Except.ok.injEq]
      constructor
      · rintro rfl
        exact ⟨rfl, rfl⟩
      · rintro ⟨rfl, rfl⟩
        rfl

theorem filled_of_load (h : r.load d = (rs, none)) : rs.Filled := by
  obtain ⟨hclasses, hcommands⟩ := load_eq_none_iff.1 h
  unfold ClassRegistry.load at hclasses
  unfold CommandRegistry.load at hcommands
  split at hclasses
  · cases hclasses
  · split at hcommands
    · cases hcommands
    · obtain ⟨t, -, ht⟩ := Outcome.map_eq_ok.1 hclasses
      obtain ⟨k, -, hk⟩ := Outcome.map_eq_ok.1 hcommands
      exact ⟨by rw [← ht]; rfl, by rw [← hk]; rfl⟩

theorem receive_eq_none_iff {x : Except Fault Dictionary} :
    r.receive x = (rs, none) ↔ ∃ d, x = .ok d ∧ r.load d = (rs, none) := by
  cases x with
  | error f => simp [receive]
  | ok d => simp [receive]

theorem not_filled_empty : ¬ empty.Filled := by
  rintro ⟨h, -⟩
  cases h

end Registries

/-! ## Runs -/

/-- The event ends a load on which the loader works for `p`. -/
def Event.ends (p : TaskId) : Event → Prop
  | .delivered q _ | .cancelled q => q = p
  | .wait _ | .populate _ => False

/-- The tables and the cause that the event leaves when it ends a load. -/
def Event.result : Event → Registries × Option Fault
  | .delivered _ x => Registries.empty.receive x
  | .cancelled _ | .wait _ | .populate _ => (.empty, none)

namespace Barrier

/-- The tasks that end along a row of events, in the order in which they end. -/
def log (b : Barrier) : List Event → List Finished
  | [] => []
  | e :: es => (b.step e).2 ++ (b.step e).1.log es

theorem run_append (b : Barrier) (es es' : List Event) :
    b.run (es ++ es') = (b.run es).run es' := List.foldl_append

theorem run_concat (b : Barrier) (es : List Event) (e : Event) :
    b.run (es ++ [e]) = ((b.run es).step e).1 := run_append b es [e]

theorem log_append (b : Barrier) (es es' : List Event) :
    b.log (es ++ es') = b.log es ++ (b.run es).log es' := by
  induction es generalizing b with
  | nil => rfl
  | cons e es ih =>
    rw [List.cons_append, log, log, ih, List.append_assoc]
    rfl

theorem log_concat (b : Barrier) (es : List Event) (e : Event) :
    b.log (es ++ [e]) = b.log es ++ ((b.run es).step e).2 := by
  rw [log_append, log, log, List.append_nil]

/-! ## What a step can do -/

/-- What a step does to tables and phase: it begins the load, ends it, or leaves both as they are.
In the last case a task goes on without a fault only after a load that has left no cause. -/
inductive Effect (b : Barrier) (e : Event) : Prop
  | begins (p : TaskId) : b.phase = .idle → (b.step e).1.phase = .loading p →
      (b.step e).1.registries = b.registries → (b.step e).2 = [] → Effect b e
  | ends (p : TaskId) (own : List Finished) (result : Registries × Option Fault) :
      b.phase = .loading p → e.ends p → (b.registries = .empty → result = e.result) →
      (∀ f ∈ own, f.registries = result.1 ∧ (f.fault = none → result.2 = none)) →
      b.step e = { b with registries := result.1 }.finish own result.2 → Effect b e
  | stays : (b.step e).1.phase = b.phase → (b.step e).1.registries = b.registries →
      (∀ p, b.phase = .loading p → ¬ e.ends p) →
      (∀ f ∈ (b.step e).2, f.registries = b.registries ∧
        (f.fault = none → b.phase = .ended none)) → Effect b e

theorem effect_of_delivered {b : Barrier} {p : TaskId} (h : b.phase = .loading p)
    (x : Except Fault Dictionary) : Effect b (.delivered p x) := by
  refine .ends p [⟨p, waitFault (b.registries.receive x).2, (b.registries.receive x).1⟩]
    (b.registries.receive x) h rfl (fun hempty => ?_) ?_ ?_
  · rw [hempty]
    rfl
  · simp [waitFault]
  · simp [step, h]

theorem effect_of_cancelled {b : Barrier} {p : TaskId} (h : b.phase = .loading p) :
    Effect b (.cancelled p) := by
  refine .ends p [] (b.registries, none) h rfl (fun hempty => ?_) (by simp) ?_
  · rw [hempty]
    rfl
  · simp [step, h, finish]

theorem effect (b : Barrier) (e : Event) : Effect b e := by
  obtain ⟨rs, phase, waiting⟩ := b
  cases e with
  | wait w =>
    refine .stays ?_ ?_ (by simp [Event.ends]) ?_
    all_goals cases phase <;> simp [step, waitFault]
  | populate p =>
    cases phase with
    | idle => exact .begins p rfl rfl rfl rfl
    | loading q => exact .stays rfl rfl (by simp [Event.ends]) (by simp [step])
    | ended cause => exact .stays rfl rfl (by simp) (by simp [step])
  | delivered p x =>
    cases phase with
    | idle => exact .stays rfl rfl (by simp) (by simp [step])
    | ended cause => exact .stays rfl rfl (by simp) (by simp [step])
    | loading q =>
      by_cases hp : p = q
      · rw [hp]
        exact effect_of_delivered rfl x
      · exact .stays (by simp [step, hp]) (by simp [step, hp]) (by simp [Event.ends, hp])
          (by simp [step, hp])
  | cancelled p =>
    cases phase with
    | idle => exact .stays rfl rfl (by simp) (by simp [step])
    | ended cause => exact .stays rfl rfl (by simp) (by simp [step])
    | loading q =>
      by_cases hp : p = q
      · rw [hp]
        exact effect_of_cancelled rfl
      · exact .stays (by simp [step, hp]) (by simp [step, hp]) (by simp [Event.ends, hp])
          (by simp [step, hp])

theorem finish_phase (b : Barrier) (own : List Finished) (cause : Option Fault) :
    (b.finish own cause).1.phase = .ended cause := rfl

/-- After the load has ended, nothing changes any more. -/
theorem run_of_ended {b : Barrier} {cause : Option Fault} (h : b.phase = .ended cause)
    (es : List Event) : (b.run es).phase = .ended cause ∧ (b.run es).registries = b.registries := by
  induction es generalizing b with
  | nil => exact ⟨h, rfl⟩
  | cons e es ih =>
    cases effect b e with
    | begins p hidle =>
      rw [h] at hidle
      cases hidle
    | ends p own result hloading =>
      rw [h] at hloading
      cases hloading
    | stays hphase hregs =>
      obtain ⟨hphase', hregs'⟩ := ih (hphase.trans h)
      exact ⟨hphase', hregs'.trans hregs⟩

/-! ## How the load ended -/

/-- The run holds the event, at a moment when it ends the load. -/
def EndedBy (es : List Event) (e : Event) : Prop :=
  ∃ front p rest, es = front ++ e :: rest ∧ (new.run front).phase = .loading p ∧ e.ends p

/-- The loader delivered the dictionary. -/
def Delivered (es : List Event) (d : Dictionary) : Prop :=
  ∃ p, EndedBy es (.delivered p (.ok d))

/-- The load was cancelled while its loader was at work. -/
def CutShort (es : List Event) : Prop := ∃ p, EndedBy es (.cancelled p)

/-- Before the load has ended the tables are empty, and nobody has gone on without a fault. -/
theorem run_before_end (es : List Event) (h : ∀ cause, (new.run es).phase ≠ .ended cause) :
    (new.run es).registries = .empty ∧ ∀ f ∈ new.log es, f.fault ≠ none := by
  induction es using List.reverseRecOn with
  | nil => exact ⟨rfl, by simp [log]⟩
  | append_singleton es e ih =>
    rw [run_concat] at h ⊢
    rw [log_concat]
    cases effect (new.run es) e with
    | begins p hidle _ hregs hnone =>
      obtain ⟨hempty, hfaults⟩ := ih fun cause => by rw [hidle]; simp
      rw [hnone, List.append_nil]
      exact ⟨hregs.trans hempty, hfaults⟩
    | ends p own result _ _ _ _ hstep =>
      refine absurd ?_ (h result.2)
      rw [hstep, finish_phase]
    | stays hphase hregs _ hlog =>
      rw [hphase] at h
      obtain ⟨hempty, hfaults⟩ := ih h
      refine ⟨hregs.trans hempty, fun f hf hnone => ?_⟩
      rcases List.mem_append.1 hf with hf | hf
      · exact hfaults f hf hnone
      · exact h none ((hlog f hf).2 hnone)

namespace EndedBy

variable {es : List Event} {e e' : Event}

theorem step_eq {front : List Event} {p : TaskId} (h : (new.run front).phase = .loading p)
    (he : e.ends p) :
    (new.run (front ++ [e])).phase = .ended e.result.2 ∧
      (new.run (front ++ [e])).registries = e.result.1 := by
  have hempty : (new.run front).registries = .empty :=
    (run_before_end front fun cause => by rw [h]; simp).1
  rw [run_concat]
  cases effect (new.run front) e with
  | begins q hidle =>
    rw [h] at hidle
    cases hidle
  | ends q own result _ _ hresult _ hstep =>
    rw [hstep, hresult hempty]
    exact ⟨rfl, rfl⟩
  | stays _ _ hnot => exact absurd he (hnot p h)

/-- The event that ended the load decides on tables and cause. -/
theorem run_eq (h : EndedBy es e) :
    (new.run es).phase = .ended e.result.2 ∧ (new.run es).registries = e.result.1 := by
  obtain ⟨front, p, rest, rfl, hphase, he⟩ := h
  obtain ⟨hended, hregs⟩ := step_eq hphase he
  rw [List.append_cons, run_append]
  obtain ⟨hended', hregs'⟩ := run_of_ended hended rest
  exact ⟨hended', hregs'.trans hregs⟩

theorem unique (h : EndedBy es e) (h' : EndedBy es e') : e = e' := by
  obtain ⟨front, p, rest, rfl, hphase, he⟩ := h
  obtain ⟨front', p', rest', heq, hphase', he'⟩ := h'
  -- of two moments the later one would find the load ended by the earlier one
  rcases List.append_eq_append_iff.1 heq with ⟨mid, hfront, hrest⟩ | ⟨mid, hfront, hrest⟩
  · cases mid with
    | nil => exact (List.cons.inj hrest).1
    | cons x mid =>
      obtain ⟨rfl, -⟩ := List.cons.inj hrest
      have hended := run_eq ⟨front, p, mid, hfront, hphase, he⟩
      rw [hphase'] at hended
      cases hended.1
  · cases mid with
    | nil => exact (List.cons.inj hrest).1.symm
    | cons x mid =>
      obtain ⟨rfl, -⟩ := List.cons.inj hrest
      have hended := run_eq ⟨front', p', mid, hfront, hphase', he'⟩
      rw [hphase] at hended
      cases hended.1

end EndedBy

theorem exists_endedBy {es : List Event} {cause : Option Fault}
    (h : (new.run es).phase = .ended cause) : ∃ e, EndedBy es e := by
  induction es using List.reverseRecOn with
  | nil => cases h
  | append_singleton es e ih =>
    rw [run_concat] at h
    cases effect (new.run es) e with
    | begins p _ hloading =>
      rw [h] at hloading
      cases hloading
    | ends p own result hloading he => exact ⟨e, es, p, [], rfl, hloading, he⟩
    | stays hphase =>
      obtain ⟨e', front, p, rest, rfl, hfront⟩ := ih (hphase.symm.trans h)
      exact ⟨e', front, p, rest ++ [e], by simp, hfront⟩

/-- Who has gone on without a fault did so after a load that left no cause, over the tables as they
still are. -/
theorem log_without_fault {es : List Event} {f : Finished} (hf : f ∈ new.log es)
    (hnone : f.fault = none) :
    (new.run es).phase = .ended none ∧ (new.run es).registries = f.registries := by
  induction es using List.reverseRecOn with
  | nil => cases hf
  | append_singleton es e ih =>
    rw [log_concat] at hf
    rw [run_concat]
    cases effect (new.run es) e with
    | begins p hidle _ _ hnil =>
      rw [hnil, List.append_nil] at hf
      obtain ⟨hended, -⟩ := ih hf
      rw [hidle] at hended
      cases hended
    | ends p own result hloading _ _ hown hstep =>
      rcases List.mem_append.1 hf with hf | hf
      · obtain ⟨hended, -⟩ := ih hf
        rw [hloading] at hended
        cases hended
      · rw [hstep] at hf ⊢
        rcases List.mem_append.1 hf with hf | hf
        · obtain ⟨hregs, hcause⟩ := hown f hf
          rw [finish_phase, hcause hnone]
          exact ⟨rfl, hregs.symm⟩
        · obtain ⟨w, -, rfl⟩ := List.mem_map.1 hf
          have hcause : result.2 = none := by simpa [waitFault] using hnone
          rw [finish_phase, hcause]
          exact ⟨rfl, rfl⟩
    | stays hphase hregs _ hlog =>
      rw [hphase, hregs]
      rcases List.mem_append.1 hf with hf | hf
      · exact ih hf
      · obtain ⟨hregs', hended⟩ := hlog f hf
        exact ⟨hended hnone, hregs'.symm⟩

/-! ## Safe runs -/

/-- The barrier lets nobody through too early (module doc). Whoever goes on without a fault finds
the tables of the dictionary, and finds them unchanged however late it looks. -/
structure Safe (es : List Event) : Prop where
  ready : (new.run es).isReady = true → (new.run es).registries.Filled
  released : ∀ f ∈ new.log es, f.fault = none → f.registries.Filled ∧
    (∃ d, (∀ d', Delivered es d' ↔ d' = d) ∧ Registries.empty.load d = (f.registries, none)) ∧
    ∀ later, (new.run (es ++ later)).registries = f.registries

theorem isReady_iff {b : Barrier} : b.isReady = true ↔ b.phase = .ended none := by
  unfold isReady
  split <;> simp_all

/-- A load that has left no cause and was not cut short has filled the tables from the dictionary
that was delivered. -/
theorem loaded_of_ended {es : List Event} (h : (new.run es).phase = .ended none)
    (hcut : ¬ CutShort es) :
    ∃ d, Delivered es d ∧ Registries.empty.load d = ((new.run es).registries, none) := by
  obtain ⟨e, he⟩ := exists_endedBy h
  obtain ⟨hphase, hregs⟩ := he.run_eq
  have hcause : e.result.2 = none := by
    rw [hphase] at h
    exact Phase.ended.inj h
  cases e with
  | cancelled p => exact absurd ⟨p, he⟩ hcut
  | delivered p x =>
    have hreceive : Registries.empty.receive x = ((new.run es).registries, none) := by
      rw [hregs, ← hcause]
      rfl
    obtain ⟨d, rfl, hload⟩ := Registries.receive_eq_none_iff.1 hreceive
    exact ⟨d, ⟨p, he⟩, hload⟩
  | wait | populate =>
    obtain ⟨front, q, rest, -, -, hends⟩ := he
    exact hends.elim

/-- **Which runs are safe**: those whose load is not cut short. -/
theorem safe_iff (es : List Event) : Safe es ↔ ¬ CutShort es := by
  constructor
  · rintro hsafe ⟨p, hcut⟩
    obtain ⟨hphase, hregs⟩ := hcut.run_eq
    have hfilled := hsafe.ready (isReady_iff.2 hphase)
    rw [hregs] at hfilled
    exact Registries.not_filled_empty hfilled
  · intro hcut
    refine ⟨fun hready => ?_, fun f hf hnone => ?_⟩
    · obtain ⟨d, -, hload⟩ := loaded_of_ended (isReady_iff.1 hready) hcut
      exact Registries.filled_of_load hload
    · obtain ⟨hended, hregs⟩ := log_without_fault hf hnone
      obtain ⟨d, ⟨p, hd⟩, hload⟩ := loaded_of_ended hended hcut
      rw [hregs] at hload
      refine ⟨Registries.filled_of_load hload, ⟨d, fun d' => ?_, hload⟩, fun later => ?_⟩
      · constructor
        · rintro ⟨p', hd'⟩
          cases hd'.unique hd
          rfl
        · rintro rfl
          exact ⟨p, hd⟩
      · rw [run_append, (run_of_ended hended later).2, hregs]

/-- A load that is cancelled lets the task held back go on over empty tables. -/
theorem cancelled_load_not_safe :
    (new.run [.populate "load", .wait "request", .cancelled "load"]).isReady = true ∧
      new.log [.populate "load", .wait "request", .cancelled "load"] =
        [⟨"request", none, .empty⟩] ∧
      ¬ Safe [.populate "load", .wait "request", .cancelled "load"] := by
  refine ⟨rfl, rfl, fun hsafe => ?_⟩
  exact Registries.not_filled_empty (hsafe.ready rfl)

end Barrier

end ScriptGateway
