import ScriptGateway.Gateway.Route
import ScriptGateway.Proofs.Command.Serialization
import ScriptGateway.Proofs.Gateway.Readiness
import ScriptGateway.Proofs.Schema.Keys
import ScriptGateway.Proofs.Script.Engine
import ScriptGateway.Proofs.Specifier.DeadEnds

/-!
# Requests that are answered

Behind a barrier whose load has ended, every request is answered, with two exceptions that come from
the same limit on the digits of a number: a path that overruns where the request follows it, and an
error of the engine whose number is too long (`Barrier.handle_answers_iff`). The paths that a
request follows are its own, the value of a property that holds an object, and the values of a
command's object parameters up to the first one that is not taken.

The tables are those of a dictionary that declares an application (`Registries.root_of_load`); when
the load has failed, they do not matter.
-/

set_option autoImplicit false

namespace ScriptGateway

variable {r classes : ClassRegistry} {commands : CommandRegistry} {f : Fault}

/-! ## Arguments -/

namespace Call

variable {values : OrderedMap String String} {command name : String} {ps : List Parameter}

/-- The values are taken in order, and a fault is that of the first one that is not taken. -/
theorem arguments_eq_fault_iff :
    arguments r command values ps = .error (.fault f) ↔
      ∃ front p back raw args, ps = front ++ p :: back ∧
        arguments r command values front = .ok args ∧ values.get? p.name = some raw ∧
        argument r p raw = .error (.fault f) := by
  rw [arguments_eq_error_iff]
  constructor
  · rintro ⟨front, p, back, rfl, hfront, hp⟩
    obtain ⟨args, hargs⟩ := exists_arguments_iff.2 hfront
    obtain ⟨raw, hraw, hfault⟩ := entry_eq_fault_iff.1 hp
    exact ⟨front, p, back, raw, args, rfl, hargs, hraw, hfault⟩
  · rintro ⟨front, p, back, raw, args, rfl, hargs, hraw, hfault⟩
    exact ⟨front, p, back, rfl, exists_arguments_iff.1 ⟨args, hargs⟩,
      entry_eq_fault_iff.2 ⟨raw, hraw, hfault⟩⟩

theorem call_eq_fault_iff :
    call r commands name values = .error (.fault f) ↔
      ∃ c, commands.lookup? name = some c ∧
        arguments r c.name values c.parameters = .error (.fault f) := by
  unfold call
  cases commands.lookup? name with
  | none => simp
  | some c => simp [Outcome.bind_eq_error, pure, Except.pure]

/-- Of the values of the parameters, the first one that is not taken is a path that overruns. -/
def Overruns (r : ClassRegistry) (command : String) (values : OrderedMap String String)
    (ps : List Parameter) : Prop :=
  ∃ front p back raw args, ps = front ++ p :: back ∧
    arguments r command values front = .ok args ∧ values.get? p.name = some raw ∧
    p.kind = .specifier ∧ r.Overruns raw

theorem exists_arguments_fault_iff (hroot : (r.lookup? ClassTable.rootName).isSome = true) :
    (∃ f, arguments r command values ps = .error (.fault f)) ↔ Overruns r command values ps := by
  simp only [arguments_eq_fault_iff, argument_eq_fault_iff, Overruns]
  constructor
  · rintro ⟨f, front, p, back, raw, args, rfl, hargs, hraw, hkind, hfault⟩
    exact ⟨front, p, back, raw, args, rfl, hargs, hraw, hkind,
      (resolve_eq_fault_iff hroot).1 ⟨f, hfault⟩⟩
  · rintro ⟨front, p, back, raw, args, rfl, hargs, hraw, hkind, hover⟩
    obtain ⟨f, hfault⟩ := (resolve_eq_fault_iff hroot).2 hover
    exact ⟨f, front, p, back, raw, args, rfl, hargs, hraw, hkind, hfault⟩

end Call

theorem Specifier.propertyArgument_eq_fault_iff {p : Property} {raw : String} :
    propertyArgument r p raw = .error (.fault f) ↔
      p.kind = .specifier ∧ resolve r raw writeParameter = .error (.fault f) := by
  unfold propertyArgument
  cases p.kind with
  | specifier => simp [Call.object, Outcome.map_eq_error]
  | boolean => simp
  | text => simp
  | integer => cases Script.integerLiteral? raw <;> simp [Call.refuse]
  | enumerated => cases Script.bareLiteral? raw <;> simp [Call.refuse]
  | other => cases Script.bareLiteral? raw <;> simp [Call.refuse]

theorem Specifier.writeScript_eq_fault_iff {s : Specifier} {p : Property} {raw : String} :
    s.writeScript r p raw = .error (.fault f) ↔ p.writable = true ∧ p.kind = .specifier ∧
      resolve r raw writeParameter = .error (.fault f) := by
  unfold writeScript
  cases p.writable with
  | false => simp
  | true => simp [Outcome.map_eq_error, propertyArgument_eq_fault_iff]

/-! ## Requests -/

namespace Request

/-- A path that the request follows overruns. -/
def Overruns (classes : ClassRegistry) (commands : CommandRegistry) (q : Request) : Prop :=
  match q.command? with
  | some name =>
    ∃ c, commands.lookup? name = some c ∧ Call.Overruns classes c.name q.params c.parameters
  | none =>
    classes.Overruns q.path ∨
      q.method ≠ .get ∧ ∃ s p raw, resolve classes q.path pathStem = .ok s ∧
        s.property? = some p ∧ q.params.get? writeParameter = some raw ∧
        p.writable = true ∧ p.kind = .specifier ∧ classes.Overruns raw

theorem script_eq_fault_iff {q : Request} (hcommand : q.command? = none) :
    q.script classes commands = .error (.fault f) ↔
      resolve classes q.path pathStem = .error (.fault f) ∨
        q.method ≠ .get ∧ ∃ s p raw, resolve classes q.path pathStem = .ok s ∧
          s.property? = some p ∧ q.params.get? writeParameter = some raw ∧
          s.writeScript classes p raw = .error (.fault f) := by
  simp only [script, hcommand, Outcome.bind_eq_error]
  refine or_congr_right ?_
  cases resolve classes q.path pathStem with
  | error p => simp
  | ok s =>
    cases hproperty : s.property? with
    | none => simp [hproperty]
    | some p =>
      cases q.method with
      | get => simp [hproperty]
      | post => cases q.params.get? writeParameter <;> simp [hproperty]
      | other => cases q.params.get? writeParameter <;> simp [hproperty]

theorem exists_script_fault_iff {q : Request}
    (hroot : (classes.lookup? ClassTable.rootName).isSome = true) :
    (∃ f, q.script classes commands = .error (.fault f)) ↔ q.Overruns classes commands := by
  cases hcommand : q.command? with
  | some name =>
    simp only [script, Overruns, hcommand, Outcome.map_eq_error, Call.call_eq_fault_iff,
      ← Call.exists_arguments_fault_iff hroot]
    exact ⟨fun ⟨f, c, hc, hf⟩ => ⟨c, hc, f, hf⟩, fun ⟨c, hc, f, hf⟩ => ⟨f, c, hc, hf⟩⟩
  | none =>
    simp only [script_eq_fault_iff hcommand, Specifier.writeScript_eq_fault_iff, Overruns, hcommand]
    constructor
    · rintro ⟨f, hpath | ⟨hget, s, p, raw, hs, hp, hraw, hwritable, hkind, hvalue⟩⟩
      · exact .inl ((resolve_eq_fault_iff hroot).1 ⟨f, hpath⟩)
      · exact .inr ⟨hget, s, p, raw, hs, hp, hraw, hwritable, hkind,
          (resolve_eq_fault_iff hroot).1 ⟨f, hvalue⟩⟩
    · rintro (hpath | ⟨hget, s, p, raw, hs, hp, hraw, hwritable, hkind, hvalue⟩)
      · obtain ⟨f, hf⟩ := (resolve_eq_fault_iff hroot).2 hpath
        exact ⟨f, .inl hf⟩
      · obtain ⟨f, hf⟩ := (resolve_eq_fault_iff hroot).2 hvalue
        exact ⟨f, .inr ⟨hget, s, p, raw, hs, hp, hraw, hwritable, hkind, hf⟩⟩

end Request

/-! ## Responses -/

/-- The executor fails only with faults of execution. -/
def Executor.FailsCleanly (execute : Executor) : Prop :=
  ∀ script f, execute script = .error f → ∃ text code, f = .execution text code

theorem Executor.failsCleanly_of_ok (run : Script.Run) : FailsCleanly fun _ => .ok run := by
  intro script f hf
  cases hf

/-- A script was written for the request, and the run of it reports a number that is too long. -/
def Request.Misreported (classes : ClassRegistry) (commands : CommandRegistry) (execute : Executor)
    (q : Request) : Prop :=
  ∃ script run, q.script classes commands = .ok script ∧ execute script = .ok run ∧ run.Overlong

/-- A run is answered unless the number of its error is too long. -/
theorem Response.ofRun_ok_iff {run : Except Fault Script.Run}
    (hclean : ∀ f, run = .error f → ∃ text code, f = .execution text code) :
    (∃ response, Response.ofRun run = .ok response) ↔ ¬ ∃ x, run = .ok x ∧ x.Overlong := by
  cases run with
  | error f =>
    obtain ⟨text, code, rfl⟩ := hclean f rfl
    simp [Response.ofRun, Except.bind]
  | ok x =>
    have hx : (∃ response, Response.ofRun (.ok x) = .ok response) ↔
        (∃ value, x.result = .ok value) ∨
          ∃ text code, x.result = .error (.execution text code) := by
      simp only [Response.ofRun, Except.bind]
      cases x.result with
      | ok value => simp
      | error f => cases f <;> simp
    rw [hx, Script.Run.result_settles_iff]
    simp

namespace Registries

variable {g : Registries} {execute : Executor} {q : Request}

/-- A dictionary that declares an application leads to tables that have one. -/
theorem root_of_load {d : Dictionary} (h : Registries.empty.load d = (g, none))
    (hd : ∃ c ∈ d.classes, c.name = ClassTable.rootName) :
    (g.classes.lookup? ClassTable.rootName).isSome = true := by
  obtain ⟨c, hc, hname⟩ := hd
  obtain ⟨hclasses, -⟩ := load_eq_none_iff.1 h
  obtain ⟨t, ht, hg⟩ := Outcome.map_eq_ok.1 hclasses
  obtain ⟨info, hinfo, -⟩ := ClassTable.lookup?_declared ht hc
  rw [hname] at hinfo
  simp [← hg, ClassRegistry.lookup?, hinfo]

theorem handle_ok_iff (hroot : (g.classes.lookup? ClassTable.rootName).isSome = true)
    (hclean : execute.FailsCleanly) :
    (∃ response, (g.handle execute q).outcome = .ok response) ↔
      ¬ (q.Overruns g.classes g.commands ∨ q.Misreported g.classes g.commands execute) := by
  rw [← Request.exists_script_fault_iff hroot]
  unfold handle Request.Misreported
  cases q.script g.classes g.commands with
  | ok script =>
    simp [Response.ofRun_ok_iff (hclean script)]
  | error p => cases p <;> simp

end Registries

namespace Barrier

variable {b : Barrier} {cause : Option Fault} {execute : Executor}

/-- **Every request is answered** once the load has ended, unless it follows a path that overruns or
the run of its script reports a number that is too long; these are also the only paths that are
neither followed nor refused, and the only runs that neither give a value nor report a fault of
execution. -/
theorem handle_answers_iff (hended : b.phase = .ended cause)
    (hroot : cause = none → (b.registries.classes.lookup? ClassTable.rootName).isSome = true)
    (hclean : execute.FailsCleanly) :
    (∀ q : Request, (∃ h response, b.handle execute q = some h ∧ h.outcome = .ok response) ↔
      (cause = none → ¬ q.Overruns b.registries.classes b.registries.commands ∧
        ¬ q.Misreported b.registries.classes b.registries.commands execute)) ∧
    (cause = none → ∀ path stem, ((∃ s, resolve b.registries.classes path stem = .ok s) ∨
        ∃ u, resolve b.registries.classes path stem = .error (.refused (.unresolved u))) ↔
      ¬ b.registries.classes.Overruns path) ∧
    ∀ run : Script.Run, ((∃ value, run.result = .ok value) ∨
        ∃ text code, run.result = .error (.execution text code)) ↔ ¬ run.Overlong := by
  refine ⟨fun q => ?_, fun hnone path stem => resolve_settles_iff (hroot hnone),
    Script.Run.result_settles_iff⟩
  cases cause with
  | some f => simp [handle, hended]
  | none =>
    have hanswer := Registries.handle_ok_iff (q := q) (hroot rfl) hclean
    simpa [handle, hended, not_or] using hanswer

/-- A barrier behind which the playlists have been loaded. -/
def shelved : Barrier := new.run [.populate "load", .delivered "load" (.ok ⟨shelf, [], []⟩)]

theorem shelved_ended : shelved.phase = .ended none := isReady_iff.1 (by decide +kernel)

theorem shelved_root : (shelved.registries.classes.lookup? ClassTable.rootName).isSome = true := by
  have hload : Registries.empty.load ⟨shelf, [], []⟩ = (shelved.registries, none) :=
    Prod.ext rfl (Phase.ended.inj shelved_ended)
  exact Registries.root_of_load hload ⟨_, List.mem_cons_self, rfl⟩

theorem handle_answers_name_of_playlist :
    shelved.phase = .ended none ∧
      (shelved.registries.classes.lookup? ClassTable.rootName).isSome = true ∧
      Executor.FailsCleanly (fun _ => .ok ⟨"Road trip\n", "", 0⟩) ∧
      ¬ Request.Overruns shelved.registries.classes shelved.registries.commands
        ⟨.get, "/playlists/-1/name", .empty⟩ := by
  have hclean := Executor.failsCleanly_of_ok ⟨"Road trip\n", "", 0⟩
  refine ⟨shelved_ended, shelved_root, hclean, ?_⟩
  have hanswer : ((shelved.handle (fun _ => .ok ⟨"Road trip\n", "", 0⟩)
      ⟨.get, "/playlists/-1/name", .empty⟩).bind (·.outcome.toOption)).isSome = true := by
    decide +kernel
  obtain ⟨response, hresponse⟩ := Option.isSome_iff_exists.1 hanswer
  obtain ⟨h, hh, hok⟩ := Option.bind_eq_some_iff.1 hresponse
  have hall := (handle_answers_iff shelved_ended (fun _ => shelved_root) hclean).1
    ⟨.get, "/playlists/-1/name", .empty⟩
  exact (hall.1 ⟨h, response, hh, Outcome.toOption_eq_some.1 hok⟩ rfl).1

/-- A negative number of `n` digits. -/
def ones (n : Nat) : String := String.ofList ('-' :: List.replicate n '1')

theorem overlong_ones {n : Nat} (h : Text.maxDigits < n) : Path.Overlong (ones n) := by
  have hlast : ('-' :: List.replicate n '1').getLast? ≠ some '\n' := by
    intro hlast
    have hmem := List.mem_of_getLast? hlast
    simp at hmem
  refine ⟨['-'], by simp, List.replicate n '1', ?_, fun c hc => ?_, by simpa using h⟩
  · rw [ones, String.toList_ofList, Text.dropFinalNewline_of_ne hlast, List.singleton_append]
  · obtain rfl := List.eq_of_mem_replicate hc
    decide

theorem shelved_overruns {n : Nat} (h : Text.maxDigits < n) :
    shelved.registries.classes.Overruns (Path.along ["playlists", ones n, "name"]) := by
  have hopens : (shelved.registries.classes.table?.bind fun t =>
      (t.lookup? ClassTable.rootName).bind fun root =>
        (Walk.step t [] root false "playlists" false).toOption.map (·.isCollection)) =
      some true := by decide +kernel
  obtain ⟨t, ht, hopens⟩ := Option.bind_eq_some_iff.1 hopens
  obtain ⟨root, hroot, hopens⟩ := Option.bind_eq_some_iff.1 hopens
  obtain ⟨s, hs, hcollection⟩ := Option.map_eq_some_iff.1 hopens
  have hmove := Walk.step_ok_iff.1 (Outcome.toOption_eq_some.1 hs)
  have hsegs : Path.segments (Path.along ["playlists", ones n, "name"]) =
      ["playlists"] ++ ones n :: ["name"] :=
    Path.segments_along (by simp [ones]) (by simp)
  exact ⟨t, root, ["playlists"], ones n, ["name"], s.target, ht, hroot, hsegs,
    .next hmove (hcollection ▸ .here), overlong_ones h⟩

/-- A request for a playlist with a number of 4301 digits is not answered. -/
theorem shelved_unanswered :
    shelved.phase = .ended none ∧
      (shelved.registries.classes.lookup? ClassTable.rootName).isSome = true ∧
      ¬ ∃ h response, shelved.handle (fun _ => .ok ⟨"Road trip\n", "", 0⟩)
        ⟨.get, Path.along ["playlists", ones 4301, "name"], .empty⟩ = some h ∧
          h.outcome = .ok response := by
  refine ⟨shelved_ended, shelved_root, ?_⟩
  rintro ⟨h, response, hh, hok⟩
  obtain rfl : shelved.registries.handle (fun _ => .ok ⟨"Road trip\n", "", 0⟩)
      ⟨.get, Path.along ["playlists", ones 4301, "name"], .empty⟩ = h := by
    simpa [handle, shelved_ended] using hh
  have hclean := Executor.failsCleanly_of_ok ⟨"Road trip\n", "", 0⟩
  exact (Registries.handle_ok_iff shelved_root hclean).1 ⟨response, hok⟩
    (.inl (.inl (shelved_overruns (by decide))))

end Barrier

end ScriptGateway
