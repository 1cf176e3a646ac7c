import ScriptGateway.Proofs.Specifier.Nesting
import ScriptGateway.Specifier.Builder

/-!
# What is built along the way

A specifier has its lines, its variables and its expressions as functions of its steps; a builder
collects them while the steps are made. Both come to the same for every path, and where one fails so
does the other, for the same reason (`build_eq`).

Where a path leads does not depend on what has been built, so the builder can be left until the steps
are known (`Progress.follow_eq`). What has been built by then is `Progress.Along` the steps: each step
keeps that (`Along.take`), and so does a path, in which nothing follows a property (`Along.foldl`).
-/

set_option autoImplicit false

namespace ScriptGateway

namespace Specifier

/-- The steps as they are recorded, the root first. -/
def records (s : Specifier) : List Record :=
  .root s.root :: (expressions s.stem 0 s.steps).map fun (t, expression) => t.record expression

/-- What the path of the specifier has come to. -/
def resolved (s : Specifier) : Resolved :=
  ⟨s.path, s.records, s.statements, s.current, s.subject, s.target, s.property?⟩

@[simp] theorem isProperty_resolved (s : Specifier) : s.resolved.isProperty = s.isProperty := rfl

@[simp] theorem reference_resolved (s : Specifier) : s.resolved.reference = s.reference := rfl

/-- One step more. -/
def next (s : Specifier) (t : Step) : Specifier := { s with steps := s.steps ++ [t] }

variable {s : Specifier} {t : Step}

/-! ## One step more -/

theorem expressions_append (stem : String) (n : Nat) (steps more : List Step) :
    expressions stem n (steps ++ more) =
      expressions stem n steps ++ expressions stem (n + (narrowing steps).length) more := by
  induction steps generalizing n with
  | nil => rfl
  | cons s steps ih =>
    rw [List.cons_append, expressions, expressions, narrowing_cons, ih, ih]
    cases s.narrows with
    | true =>
      have hlen : n + (s.phrase :: narrowing steps).length = n + 1 + (narrowing steps).length := by
        rw [List.length_cons]
        omega
      simp only [ite_true, hlen, List.cons_append]
    | false => rfl

theorem last?_next : (s.next t).last? = some t := List.getLast?_concat

theorem property?_next : (s.next t).property? = t.property? := by
  rw [property?, last?_next, Option.bind_some]

theorem target_next : (s.next t).target = t.target := by rw [target, last?_next]

theorem collectionBefore?_next :
    collectionBefore? (s.next t).steps = if t.isCollection then some t.phrase else none := by
  rw [collectionBefore?_eq, next, List.getLast?_concat, Option.bind_some]

end Specifier

namespace Builder

open Specifier

/-- The builder holds what the steps of a chain say, but for a collection at its end. -/
structure Holds (b : Builder) (s : Specifier) : Prop where
  stem : b.stem = s.stem
  statements : b.statements = Script.assign (variableName s.stem 0) rootExpression ::
    (bindFrom s.stem 0 (narrowing s.steps)).map (·.line)
  records : b.records = s.records
  counter : b.counter = (narrowing s.steps).length + 1
  current : b.current = variableName s.stem (narrowing s.steps).length

variable {b : Builder} {s : Specifier} {t : Step}

theorem holds_start (path stem : String) (root : ClassInfo) :
    (start stem root).Holds ⟨path, stem, root, []⟩ :=
  ⟨rfl, rfl, rfl, rfl, rfl⟩

/-- A step that binds nothing. -/
theorem Holds.record (h : b.Holds s) (ht : t.narrows = false) :
    (b.record t t.phrase).Holds (s.next t) := by
  have hsame : narrowing (s.next t).steps = narrowing s.steps := by
    simp [next, narrowing, ht]
  refine ⟨h.stem, ?_, ?_, ?_, ?_⟩
  · rw [hsame]
    exact h.statements
  · simp [Builder.record, h.records, Specifier.records, next, expressions_append, expressions, ht]
  · rw [hsame]
    exact h.counter
  · rw [hsame]
    exact h.current

/-- Binding a phrase read of the current variable adds its line. -/
theorem Holds.statements_bind (h : b.Holds s) (phrase : String) :
    (b.bind (ofWhole phrase b.current)).statements =
      Script.assign (variableName s.stem 0) rootExpression ::
        (bindFrom s.stem 0 (narrowing s.steps ++ [phrase])).map (·.line) := by
  rw [bindFrom_append, Nat.zero_add, List.map_append, ← List.cons_append, ← h.statements, h.current]
  simp only [bind, h.stem, h.counter]
  rfl

theorem Holds.narrow (h : b.Holds s) (ht : t.narrows = true) : (b.narrow t).Holds (s.next t) := by
  have hmore : narrowing (s.next t).steps = narrowing s.steps ++ [t.phrase] := by
    simp [next, narrowing, ht]
  refine ⟨h.stem, ?_, ?_, ?_, ?_⟩
  · rw [hmore]
    exact h.statements_bind t.phrase
  · simp [Builder.narrow, Builder.record, bind, h.records, h.current, Specifier.records, next,
      expressions_append, expressions, ht]
  · rw [hmore, List.length_append]
    exact congrArg (· + 1) h.counter
  · rw [hmore, List.length_append]
    exact congrArg₂ variableName h.stem h.counter

end Builder

/-- Only the last segment of a path is read as a property. -/
theorem Walk.Move.property?_eq_none {table : ClassTable} {current : ClassInfo} {pending : Bool}
    {segment : String} {t : Step} (h : Move table current pending segment false t) :
    t.property? = none := by
  cases h <;> rfl

namespace Progress

open Specifier

variable {w : Progress} {s : Specifier} {t : Step}

/-! ## Where a path leads -/

theorem atHand_take : (w.take t).atHand = t.target := by
  unfold take
  cases t.selection <;> rfl

theorem isSome_pending?_take : (w.take t).pending?.isSome = t.isCollection := by
  unfold take Step.isCollection
  cases t.selection <;> rfl

/-- A path is followed in the same way whatever has been built. -/
theorem follow_eq (table : ClassTable) (before : List String) (w : Progress)
    (segments : List String) :
    follow table before w segments =
      (Walk.steps table before w.atHand w.pending?.isSome segments).map (·.foldl take w) := by
  induction segments generalizing before w with
  | nil => rfl
  | cons segment rest ih =>
    rw [follow, Walk.steps]
    cases Walk.step table before w.atHand w.pending?.isSome segment rest.isEmpty with
    | error p => rfl
    | ok t =>
      simp only [bind, Except.bind, ih, atHand_take, isSome_pending?_take]
      cases Walk.steps table (before ++ [segment]) t.target t.isCollection rest with
      | error p => rfl
      | ok more => rfl

/-! ## What has been built -/

/-- The progress is that of the steps of a chain. -/
structure Along (w : Progress) (s : Specifier) : Prop where
  builder : w.builder.Holds s
  pending : w.pending?.map (fun c => "every " ++ c.name) = collectionBefore? s.steps
  atHand : w.atHand = s.target
  terminal : w.terminal? = s.property?
  subject : s.isProperty = true → w.subject = s.subject

theorem along_start (path stem : String) (root : ClassInfo) :
    (start stem root).Along ⟨path, stem, root, []⟩ :=
  ⟨Builder.holds_start path stem root, rfl, rfl, rfl, nofun⟩

theorem builder_take : (w.take t).builder =
    if t.narrows then w.builder.narrow t else w.builder.record t t.phrase := by
  unfold take Step.narrows
  cases t.selection <;> rfl

theorem pending?_take : (w.take t).pending?.map (fun c => "every " ++ c.name) =
    if t.isCollection then some t.phrase else none := by
  unfold take Step.isCollection Step.phrase
  cases t.selection <;> rfl

theorem terminal?_take : (w.take t).terminal? = t.property?.or w.terminal? := by
  unfold take Step.property?
  cases t.selection <;> rfl

/-- What a property is read from, told from the steps before it. -/
theorem Along.whole (h : w.Along s) : w.whole =
    match collectionBefore? s.steps with
    | some every => ofWhole every (variableName s.stem (narrowing s.steps).length)
    | none => variableName s.stem (narrowing s.steps).length := by
  rw [← h.pending, ← h.builder.current, Progress.whole]
  cases w.pending? <;> rfl

theorem Along.subject_take {p : Property} (h : w.Along s) (ht : t.selection = .property p) :
    (w.take t).subject = (s.next t).subject := by
  have hproperty : (s.next t).isProperty = true := by
    simp [isProperty, property?_next, Step.property?, ht]
  have hbound : boundPhrases (s.next t).steps = narrowing s.steps := by
    rw [boundPhrases_eq, collectionBefore?_next]
    simp [next, narrowing, Step.narrows, Step.isCollection, ht]
  have hbefore : (s.next t).steps.dropLast = s.steps := List.dropLast_concat
  have hwhole : (w.take t).subject = w.whole := by rw [take, ht]
  rw [hwhole, h.whole, Specifier.subject, if_pos hproperty, hbefore, Specifier.current, hbound]
  rfl

/-- One step keeps what has been built, unless it follows a property. -/
theorem Along.take (h : w.Along s) (hopen : s.property? = none) (t : Step) :
    (w.take t).Along (s.next t) where
  builder := by
    rw [builder_take]
    cases ht : t.narrows with
    | true => exact h.builder.narrow ht
    | false => exact h.builder.record ht
  pending := by rw [pending?_take, collectionBefore?_next]
  atHand := by rw [atHand_take, target_next]
  terminal := by rw [terminal?_take, h.terminal, hopen, Option.or_none, property?_next]
  subject hproperty := by
    rw [isProperty, property?_next] at hproperty
    obtain ⟨p, hp⟩ := Option.isSome_iff_exists.1 hproperty
    exact h.subject_take (Step.property?_eq_some.1 hp)

/-- A path keeps what has been built, since nothing in it follows a property. -/
theorem Along.foldl {table : ClassTable} {current : ClassInfo} {pending : Bool}
    {segments : List String} {more : List Step}
    (hleads : Walk.Leads table current pending segments more) (h : w.Along s)
    (hopen : segments ≠ [] → s.property? = none) :
    (more.foldl Progress.take w).Along { s with steps := s.steps ++ more } := by
  induction hleads generalizing w s with
  | here =>
    rw [List.append_nil]
    exact h
  | @next _ _ segment rest t more hmove _ ih =>
    have hnext : rest ≠ [] → (s.next t).property? = none := by
      intro hrest
      rw [List.isEmpty_eq_false_iff.2 hrest] at hmove
      rw [property?_next, hmove.property?_eq_none]
    have hrow : s.steps ++ t :: more = (s.next t).steps ++ more := by simp [Specifier.next]
    rw [hrow]
    exact ih (h.take (hopen (List.cons_ne_nil _ _)) t) hnext

/-! ## The end of a path -/

theorem Along.closed (h : w.Along s) : w.closed.statements = s.statements ∧
    w.closed.records = s.records ∧ w.closed.current = s.current := by
  have hbound := boundPhrases_eq s.steps
  rw [← h.pending] at hbound
  rw [statements, bindings, Specifier.current, hbound]
  cases hpending : w.pending? with
  | none =>
    have hclosed : w.closed = w.builder := by simp [Progress.closed, hpending]
    rw [hclosed, h.builder.statements, h.builder.current]
    simp [h.builder.records, Script.Binding.line]
  | some c =>
    have hclosed : w.closed = w.builder.bind (ofWhole ("every " ++ c.name) w.builder.current) := by
      simp [Progress.closed, Progress.whole, hpending]
    rw [hclosed, h.builder.statements_bind]
    refine ⟨rfl, h.builder.records, ?_⟩
    rw [Option.map_some, Option.toList_some, List.length_append]
    exact congrArg₂ variableName h.builder.stem h.builder.counter

theorem Along.finish (h : w.Along s) : w.finish s.path = s.resolved := by
  obtain ⟨hstatements, hrecords, hcurrent⟩ := h.closed
  have hsubject : (if w.terminal?.isSome then w.subject else w.closed.current) = s.subject := by
    rw [h.terminal, ← isProperty]
    cases hproperty : s.isProperty with
    | true => exact h.subject hproperty
    | false => simp [hcurrent, Specifier.subject, hproperty]
  rw [Progress.finish, hsubject, hstatements, hrecords, hcurrent, h.atHand, h.terminal, resolved]

theorem follow_start (table : ClassTable) (path stem : String) (root : ClassInfo)
    (segments : List String) :
    (follow table [] (start stem root) segments).map (·.finish path) =
      (Walk.steps table [] root false segments).map fun steps =>
        resolved ⟨path, stem, root, steps⟩ := by
  have hforget : follow table [] (start stem root) segments =
      (Walk.steps table [] root false segments).map (·.foldl take (start stem root)) :=
    follow_eq table [] (start stem root) segments
  rw [hforget]
  cases hsteps : Walk.steps table [] root false segments with
  | error p => rfl
  | ok steps =>
    have halong := (along_start path stem root).foldl (Walk.steps_ok_iff.1 hsteps) fun _ => rfl
    exact congrArg Except.ok halong.finish

end Progress

/-- **What is built along the way is what the steps say**: for every path the builder comes to the
lines, the records, the variable and the subject that the specifier of the path has, or fails as the
path does. -/
theorem build_eq (r : ClassRegistry) (path stem : String) :
    build r path stem = (resolve r path stem).map Specifier.resolved := by
  unfold build resolve
  cases r.table with
  | error f => rfl
  | ok table =>
    cases hsegments : (Path.segments path).isEmpty with
    | true =>
      simp only [hsegments]
      rfl
    | false =>
      cases hroot : table.root with
      | error f =>
        simp only [hsegments, Except.mapError, bind, Except.bind, hroot]
        rfl
      | ok root =>
        have hfollow := Progress.follow_start table path stem root (Path.segments path)
        simp only [hsegments, Except.mapError, bind, Except.bind, hroot]
        refine hfollow.trans ?_
        cases Walk.steps table [] root false (Path.segments path) with
        | error p => rfl
        | ok steps => rfl

end ScriptGateway
