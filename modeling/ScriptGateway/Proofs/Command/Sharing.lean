import ScriptGateway.Command.Call
import ScriptGateway.Proofs.Naming.Stem
import ScriptGateway.Proofs.Specifier.Running

/-!
# Calls with several objects

The paths among the values of a call are followed one by one, and their scripts run one after the
other before the call. `Call.Separate` says that they do not interfere: every object argument means,
after all of them, what its path means alone, and no variable is bound twice.

A call is separate exactly when its specifiers are pairwise `Apart` (`call_separate_iff`).
Parameters have different names, but their stems can be equal, or one can be the other followed by a
number.
-/

set_option autoImplicit false

namespace ScriptGateway

theorem Naming.variableStem_isWord (name : String) : Script.IsWord (variableStem name) := by
  intro c hc
  rcases mem_variableStem hc with halnum | rfl
  · have hne : c ≠ ' ' := by
      rintro rfl
      exact absurd halnum (by decide)
    simpa [Script.inWord] using hne
  · decide

/-! ## The specifiers of a call -/

namespace Call

/-- The specifier of a parameter that takes an object, if its value is a path that can be
followed. -/
def specifier? (r : ClassRegistry) (values : OrderedMap String String) (p : Parameter) :
    Option Specifier :=
  if p.kind = .specifier then
    (values.get? p.name).bind fun raw => (resolve r raw (Naming.variableStem p.name)).toOption
  else none

/-- The specifiers of the parameters, in the order of their declaration. -/
def specifiers (r : ClassRegistry) (values : OrderedMap String String) (ps : List Parameter) :
    List Specifier := ps.filterMap (specifier? r values)

variable {r : ClassRegistry} {values : OrderedMap String String} {p : Parameter} {raw : String}
  {a : Argument}

theorem specifier?_eq_some {s : Specifier} :
    specifier? r values p = some s ↔ p.kind = .specifier ∧ ∃ raw, values.get? p.name = some raw ∧
      resolve r raw (Naming.variableStem p.name) = .ok s := by
  simp only [specifier?, Option.ite_none_right_eq_some, Option.bind_eq_some_iff,
    Outcome.toOption_eq_some]

theorem specifiers_cons_none {ps : List Parameter} (h : specifier? r values p = none) :
    specifiers r values (p :: ps) = specifiers r values ps := List.filterMap_cons_none h

theorem specifiers_cons_some {ps : List Parameter} {s : Specifier}
    (h : specifier? r values p = some s) :
    specifiers r values (p :: ps) = s :: specifiers r values ps := List.filterMap_cons_some h

theorem argument_specifier_ok_iff (hk : p.kind = .specifier) :
    argument r p raw = .ok a ↔
      ∃ s, resolve r raw (Naming.variableStem p.name) = .ok s ∧
        a = ⟨s.statements, s.reference⟩ := by
  simp only [argument, hk, object, Outcome.map_eq_ok]
  exact exists_congr fun s => and_congr_right fun _ => eq_comm

/-- Only an object brings a script. -/
theorem argument_statements_eq_nil (hk : p.kind ≠ .specifier) (h : argument r p raw = .ok a) :
    a.statements = [] := by
  unfold argument at h
  split at h
  · rename_i hs
    exact absurd hs hk
  · cases h; rfl
  · cases h; rfl
  · split at h
    · cases h; rfl
    · cases h
  · split at h
    · cases h; rfl
    · cases h

variable {command : String} {ps : List Parameter} {args : List (Parameter × Argument)}

theorem arguments_cons_ok_iff :
    arguments r command values (p :: ps) = .ok args ↔
      (values.get? p.name = none ∧ p.optional = true ∧
        arguments r command values ps = .ok args) ∨
      ∃ raw a more, values.get? p.name = some raw ∧ argument r p raw = .ok a ∧
        arguments r command values ps = .ok more ∧ args = (p, a) :: more := by
  rw [arguments]
  cases hget : values.get? p.name with
  | none => cases hopt : p.optional <;> simp
  | some raw =>
    simp only [Outcome.bind_eq_ok, pure, Except.pure, Except.ok.injEq]
    constructor
    · rintro ⟨a, ha, more, hmore, rfl⟩
      exact .inr ⟨raw, a, more, rfl, ha, hmore, rfl⟩
    · rintro (⟨hnone, -⟩ | ⟨raw', a, more, hraw, ha, hmore, rfl⟩)
      · cases hnone
      · cases hraw
        exact ⟨a, ha, more, hmore, rfl⟩

theorem arguments_mem (h : arguments r command values ps = .ok args)
    {pa : Parameter × Argument} (hpa : pa ∈ args) :
    pa.1 ∈ ps ∧ ∃ raw, values.get? pa.1.name = some raw ∧ argument r pa.1 raw = .ok pa.2 := by
  induction ps generalizing args with
  | nil => cases h; cases hpa
  | cons p ps ih =>
    rcases arguments_cons_ok_iff.1 h with ⟨-, -, hrest⟩ | ⟨raw, a, more, hraw, ha, hmore, rfl⟩
    · obtain ⟨hmem, hex⟩ := ih hrest hpa
      exact ⟨List.mem_cons_of_mem _ hmem, hex⟩
    · rcases List.mem_cons.1 hpa with rfl | hpa
      · exact ⟨List.mem_cons_self, raw, hraw, ha⟩
      · obtain ⟨hmem, hex⟩ := ih hmore hpa
        exact ⟨List.mem_cons_of_mem _ hmem, hex⟩

/-- The statements of the arguments are the scripts of the specifiers, one after the other. -/
theorem arguments_statements (h : arguments r command values ps = .ok args) :
    args.flatMap (·.2.statements) =
      ((specifiers r values ps).flatMap (·.bindings)).map (·.line) := by
  induction ps generalizing args with
  | nil => cases h; rfl
  | cons p ps ih =>
    rcases arguments_cons_ok_iff.1 h with ⟨hnone, -, hrest⟩ | ⟨raw, a, more, hraw, ha, hmore, rfl⟩
    · have hskip : specifier? r values p = none := by simp [specifier?, hnone]
      rw [ih hrest, specifiers_cons_none hskip]
    · rw [List.flatMap_cons, ih hmore]
      by_cases hk : p.kind = .specifier
      · obtain ⟨s, hs, rfl⟩ := (argument_specifier_ok_iff hk).1 ha
        have htake : specifier? r values p = some s :=
          specifier?_eq_some.2 ⟨hk, raw, hraw, hs⟩
        rw [specifiers_cons_some htake, List.flatMap_cons, List.map_append]
        rfl
      · have hskip : specifier? r values p = none := by simp [specifier?, hk]
        rw [argument_statements_eq_nil hk ha, specifiers_cons_none hskip, List.nil_append]

theorem specifiers_stem_isWord : ∀ s ∈ specifiers r values ps, Script.IsWord s.stem := by
  intro s hs
  obtain ⟨p, -, hp⟩ := List.mem_filterMap.1 hs
  obtain ⟨-, raw, -, hres⟩ := specifier?_eq_some.1 hp
  obtain ⟨-, -, -, -, -, hstem, -⟩ := resolve_ok_iff.1 hres
  rw [hstem]
  exact Naming.variableStem_isWord p.name

/-! ## Separate specifiers -/

/-- The objects among the arguments do not interfere. After the statements, every one of them means
what its path means alone, and no variable has been bound twice. -/
structure Separate (r : ClassRegistry) (values : OrderedMap String String)
    (args : List (Parameter × Argument)) (statements : List String) : Prop where
  denotes : ∃ σ, Script.run? statements = some σ ∧ ∀ pa ∈ args, pa.1.kind = .specifier →
    ∃ raw s, values.get? pa.1.name = some raw ∧ resolve r raw pathStem = .ok s ∧
      Script.evaluate σ pa.2.literal = s.nested
  once : (Script.assigned statements).Nodup

/-- No variable is bound twice exactly when the specifiers are pairwise apart. -/
theorem assigned_nodup_iff {l : List Specifier} (hw : ∀ s ∈ l, Script.IsWord s.stem) :
    (Script.assigned ((l.flatMap (·.bindings)).map (·.line))).Nodup ↔
      l.Pairwise Specifier.Apart := by
  rw [Script.assigned_lines (Specifier.isWord_of_mem_flatMap hw), Specifier.map_name_flatMap,
    List.nodup_flatMap]
  constructor
  · rintro ⟨-, hdisjoint⟩
    exact hdisjoint.imp fun hd => (Specifier.disjoint_names_iff _ _).1 hd
  · intro hapart
    exact ⟨fun s _ => s.names_nodup,
      hapart.imp fun ha => (Specifier.disjoint_names_iff _ _).2 ha⟩

/-- After the scripts of specifiers that are pairwise apart, the reference of each means what the
specifier means. -/
theorem evaluate_of_apart {l : List Specifier} (hw : ∀ s ∈ l, Script.IsWord s.stem)
    (hapart : l.Pairwise Specifier.Apart) {s : Specifier} (hs : s ∈ l)
    (hphrases : Specifier.phrases s.steps =
      Specifier.boundPhrases s.steps ++ Specifier.readPhrases s.steps) :
    Script.evaluate (Script.runAll .empty (l.flatMap (·.bindings))) s.reference = s.nested := by
  obtain ⟨before, after, rfl⟩ := List.append_of_mem hs
  have hlast : (Specifier.boundPhrases s.steps).length < s.bindings.length := by
    rw [Specifier.length_bindings]
    omega
  have hafter : ∀ s' ∈ after, s.current ∉ s'.names := by
    intro s' hs' hv
    have hpair := (List.pairwise_append.1 hapart).2.1
    have hsep := (List.pairwise_cons.1 hpair).1 s' hs'
    exact (Specifier.disjoint_names_iff s s').2 hsep (Specifier.mem_names.2 ⟨_, hlast, rfl⟩) hv
  exact (Specifier.evaluate_last_iff (hw s hs) (hw s hs) rfl hphrases hlast rfl hafter).2 rfl

end Call

/-! ## Calls -/

/-- **Which calls keep their objects apart**: the statements of a call are the scripts of its
specifiers, and they do not interfere exactly when the specifiers are pairwise apart. -/
theorem call_separate_iff {classes : ClassRegistry} {commands : CommandRegistry} {name : String}
    {values : OrderedMap String String} {c : Call}
    (h : call classes commands name values = .ok c) :
    ∃ args, Call.arguments classes c.command.name values c.command.parameters = .ok args ∧
      c.line = Text.joinWith " " (c.command.name :: args.flatMap Call.words) ∧
      c.statements =
        (Call.specifiers classes values c.command.parameters).flatMap (·.statements) ∧
      (Call.Separate classes values args c.statements ↔
        (Call.specifiers classes values c.command.parameters).Pairwise Specifier.Apart) := by
  unfold call at h
  split at h
  · cases h
  rename_i command hlookup
  obtain ⟨args, hargs, hc⟩ := Outcome.bind_eq_ok.1 h
  cases hc
  have hlines := Call.arguments_statements hargs
  have hflat : args.flatMap (·.2.statements) =
      (Call.specifiers classes values command.parameters).flatMap (·.statements) := by
    rw [hlines, List.map_flatMap]
    rfl
  refine ⟨args, hargs, rfl, hflat, ?_⟩
  have hw : ∀ s ∈ Call.specifiers classes values command.parameters, Script.IsWord s.stem :=
    Call.specifiers_stem_isWord
  rw [hlines]
  constructor
  · exact fun hsep => (Call.assigned_nodup_iff hw).1 hsep.once
  · intro hapart
    refine ⟨⟨_, Script.run?_lines (Specifier.isWord_of_mem_flatMap hw), ?_⟩,
      (Call.assigned_nodup_iff hw).2 hapart⟩
    intro pa hpa hk
    obtain ⟨hmem, raw, hraw, ha⟩ := Call.arguments_mem hargs hpa
    obtain ⟨s, hs, harg⟩ := (Call.argument_specifier_ok_iff hk).1 ha
    have htaken : s ∈ Call.specifiers classes values command.parameters :=
      List.mem_filterMap.2 ⟨pa.1, hmem, Call.specifier?_eq_some.2 ⟨hk, raw, hraw, hs⟩⟩
    obtain ⟨t, -, -, -, -, -, hl⟩ := resolve_ok_iff.1 hs
    refine ⟨raw, _, hraw, resolve_restem hs pathStem, ?_⟩
    rw [harg]
    exact Call.evaluate_of_apart hw hapart htaken (Specifier.phrases_eq hl)

/-- Commands on the objects of `shelf`. -/
def shelfCommands : List CommandDecl := [
  ⟨"duplicate", [⟨"value", "specifier", false⟩, ⟨"to", "playlist", true⟩]⟩,
  ⟨"swap", [⟨"track", "track", false⟩, ⟨"Track", "track", false⟩]⟩]

/-- A call over loaded dictionaries is built, and is as `P` says, when the evaluation says so. -/
theorem exists_called (cs : List ClassDecl) (ds : List CommandDecl) (name : String)
    (values : OrderedMap String String) (P : Call → Bool)
    (h : ((ClassRegistry.empty.load cs []).toOption.any fun r =>
      (CommandRegistry.empty.load ds (cs.map (·.name))).toOption.any fun k =>
        (call r k name values).toOption.any P) = true) :
    ∃ r k c, ClassRegistry.empty.load cs [] = .ok r ∧
      CommandRegistry.empty.load ds (cs.map (·.name)) = .ok k ∧ call r k name values = .ok c ∧
      P c = true := by
  obtain ⟨r, hr, h⟩ := (Option.any_eq_true _ _).1 h
  obtain ⟨k, hk, h⟩ := (Option.any_eq_true _ _).1 h
  obtain ⟨c, hc, h⟩ := (Option.any_eq_true _ _).1 h
  exact ⟨r, k, c, Outcome.toOption_eq_some.1 hr, Outcome.toOption_eq_some.1 hk,
    Outcome.toOption_eq_some.1 hc, h⟩

/-- The variables of `value` and `to` do not meet. -/
theorem call_separate_duplicate :
    ∃ r k c args, ClassRegistry.empty.load shelf [] = .ok r ∧
      CommandRegistry.empty.load shelfCommands (shelf.map (·.name)) = .ok k ∧
      call r k "duplicate" (.ofList [("to", "/playlists/2"), ("value", "/playlists/1/tracks/3")]) =
        .ok c ∧
      c.line = "duplicate value2 to to1" ∧
      Call.Separate r (.ofList [("to", "/playlists/2"), ("value", "/playlists/1/tracks/3")]) args
        c.statements := by
  obtain ⟨r, k, c, hr, hk, hc, hP⟩ := exists_called shelf shelfCommands "duplicate"
    (.ofList [("to", "/playlists/2"), ("value", "/playlists/1/tracks/3")])
    (fun c => decide (c.line = "duplicate value2 to to1" ∧ (Script.assigned c.statements).Nodup))
    (by decide +kernel)
  obtain ⟨hline, honce⟩ := of_decide_eq_true hP
  obtain ⟨args, -, -, hstatements, hiff⟩ := call_separate_iff hc
  refine ⟨r, k, c, args, hr, hk, hc, hline, hiff.2 ?_⟩
  rw [hstatements] at honce
  refine (Call.assigned_nodup_iff Call.specifiers_stem_isWord).1 ?_
  rw [List.map_flatMap]
  exact honce

/-- The parameters `track` and `Track` share the stem `track`: the second path takes over the
variables of the first, and both arguments mean the second playlist. -/
theorem call_swap_not_separate :
    ∃ r k c, ClassRegistry.empty.load shelf [] = .ok r ∧
      CommandRegistry.empty.load shelfCommands (shelf.map (·.name)) = .ok k ∧
      call r k "swap" (.ofList [("track", "/playlists/1"), ("Track", "/playlists/2")]) = .ok c ∧
      c.statements = ["set track0 to it", "set track1 to playlist 1 of track0",
        "set track0 to it", "set track1 to playlist 2 of track0"] ∧
      c.line = "swap track track1 Track track1" ∧
      (Script.run? c.statements).map (Script.evaluate · "track1") = some "playlist 2 of it" ∧
      ∀ args, ¬ Call.Separate r
        (.ofList [("track", "/playlists/1"), ("Track", "/playlists/2")]) args c.statements := by
  obtain ⟨r, k, c, hr, hk, hc, hP⟩ := exists_called shelf shelfCommands "swap"
    (.ofList [("track", "/playlists/1"), ("Track", "/playlists/2")])
    (fun c => decide (c.statements = ["set track0 to it", "set track1 to playlist 1 of track0",
      "set track0 to it", "set track1 to playlist 2 of track0"] ∧
      c.line = "swap track track1 Track track1")) (by decide +kernel)
  obtain ⟨hstatements, hline⟩ := of_decide_eq_true hP
  refine ⟨r, k, c, hr, hk, hc, hstatements, hline, ?_, fun args hsep => ?_⟩
  · rw [hstatements]
    decide +kernel
  · have honce := hsep.once
    rw [hstatements] at honce
    exact absurd honce (by decide +kernel)

end ScriptGateway
