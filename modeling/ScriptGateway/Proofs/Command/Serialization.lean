import ScriptGateway.Proofs.Command.Sharing

/-!
# Calls in the order of the declaration

The parameters of a command are gone through in the order in which they are declared, whatever the
order of the values. The first one that fails decides on the refusal
(`Call.arguments_eq_error_iff`): it is required and has no value, or its kind of value rejects the
one it has (`Call.Fails`). When none fails, each parameter that has a value is written, and no other
(`Call.follows_arguments`). So a call depends on the values of the declared names alone
(`Call.arguments_congr`). Main statement: `call_serialized`.
-/

set_option autoImplicit false

namespace ScriptGateway

namespace Call

variable {r : ClassRegistry} {values values' : OrderedMap String String} {command raw : String}
  {p : Parameter} {ps : List Parameter} {args : List (Parameter × Argument)} {refusal : Refusal}

/-! ## One parameter -/

/-- The value is not one that the parameter takes. -/
inductive Rejects (r : ClassRegistry) (p : Parameter) (raw : String) : Refusal → Prop
  | path {refusal : Refusal} : p.kind = .specifier →
      resolve r raw (Naming.variableStem p.name) = .error (.refused refusal) →
      Rejects r p raw refusal
  | number : p.kind = .number → Script.numberLiteral? raw = none →
      Rejects r p raw (.invalidValue p.name raw .number)
  | constant : p.kind = .constant → Script.bareLiteral? raw = none →
      Rejects r p raw (.invalidValue p.name raw .parameterConstant)

/-- The parameter keeps the call from being built. -/
inductive Fails (r : ClassRegistry) (command : String) (values : OrderedMap String String)
    (p : Parameter) : Refusal → Prop
  | missing : values.get? p.name = none → p.optional = false →
      Fails r command values p (.missingParameter command p.name)
  | rejected {raw : String} {refusal : Refusal} : values.get? p.name = some raw →
      Rejects r p raw refusal → Fails r command values p refusal

theorem argument_eq_refused_iff :
    argument r p raw = .error (.refused refusal) ↔ Rejects r p raw refusal := by
  constructor
  · intro h
    unfold argument at h
    split at h
    · rename_i hk
      exact .path hk (Outcome.map_eq_error.1 h)
    · cases h
    · cases h
    · rename_i hk
      split at h
      · cases h
      · rename_i hn
        cases h
        exact .number hk hn
    · rename_i hk
      split at h
      · cases h
      · rename_i hn
        cases h
        exact .constant hk hn
  · rintro (⟨hk, h⟩ | ⟨hk, hn⟩ | ⟨hk, hn⟩)
    · simp [argument, hk, object, Outcome.map_eq_error, h]
    · simp [argument, hk, hn, refuse]
    · simp [argument, hk, hn, refuse]

theorem argument_eq_fault_iff {f : Fault} :
    argument r p raw = .error (.fault f) ↔
      p.kind = .specifier ∧ resolve r raw (Naming.variableStem p.name) = .error (.fault f) := by
  unfold argument
  cases p.kind with
  | specifier => simp [object, Outcome.map_eq_error]
  | boolean => simp
  | text => simp
  | number => cases Script.numberLiteral? raw <;> simp [refuse]
  | constant => cases Script.bareLiteral? raw <;> simp [refuse]

/-- What a parameter adds to the arguments of a call. -/
def entry (r : ClassRegistry) (command : String) (values : OrderedMap String String)
    (p : Parameter) : Except Problem (List (Parameter × Argument)) :=
  match values.get? p.name with
  | none =>
    if p.optional then .ok [] else .error (.refused (.missingParameter command p.name))
  | some raw => (argument r p raw).map fun a => [(p, a)]

theorem entry_eq_refused_iff :
    entry r command values p = .error (.refused refusal) ↔ Fails r command values p refusal := by
  unfold entry
  constructor
  · intro h
    split at h
    · rename_i hnone
      split at h
      · cases h
      · rename_i hrequired
        cases h
        exact .missing hnone (by simpa using hrequired)
    · rename_i raw hraw
      exact .rejected hraw (argument_eq_refused_iff.1 (Outcome.map_eq_error.1 h))
  · rintro (⟨hnone, hrequired⟩ | ⟨hraw, h⟩)
    · simp [hnone, hrequired]
    · simp [hraw, Outcome.map_eq_error, argument_eq_refused_iff.2 h]

theorem entry_eq_fault_iff {f : Fault} :
    entry r command values p = .error (.fault f) ↔
      ∃ raw, values.get? p.name = some raw ∧ argument r p raw = .error (.fault f) := by
  unfold entry
  cases values.get? p.name with
  | none => cases p.optional <;> simp
  | some raw => simp [Outcome.map_eq_error]

/-! ## All parameters -/

theorem arguments_eq_mapM :
    arguments r command values ps = (ps.mapM (entry r command values)).map List.flatten := by
  induction ps with
  | nil => rfl
  | cons p ps ih =>
    rw [arguments, List.mapM_cons, ih]
    generalize ps.mapM (entry r command values) = rest
    rw [entry]
    cases values.get? p.name with
    | none => cases p.optional <;> cases rest <;> rfl
    | some raw =>
      dsimp only
      cases argument r p raw <;> cases rest <;> rfl

/-- The first parameter that adds no arguments decides on what goes wrong. -/
theorem arguments_eq_error_iff {x : Problem} :
    arguments r command values ps = .error x ↔ ∃ front p back, ps = front ++ p :: back ∧
      (∀ q ∈ front, ∃ more, entry r command values q = .ok more) ∧
      entry r command values p = .error x := by
  rw [arguments_eq_mapM, Outcome.map_eq_error, Outcome.mapM_eq_error_iff]

theorem exists_arguments_iff :
    (∃ args, arguments r command values ps = .ok args) ↔
      ∀ p ∈ ps, ∃ more, entry r command values p = .ok more := by
  simp only [arguments_eq_mapM, Outcome.map_eq_ok, ← Outcome.exists_mapM_iff]
  exact ⟨fun ⟨_, rows, hrows, _⟩ => ⟨rows, hrows⟩, fun ⟨rows, hrows⟩ => ⟨_, rows, hrows, rfl⟩⟩

theorem not_fails_of_entry {more : List (Parameter × Argument)}
    (h : entry r command values p = .ok more) : ¬ Fails r command values p refusal := by
  intro hfails
  rw [entry_eq_refused_iff.2 hfails] at h
  cases h

/-- The arguments are those of the parameters that have a value, in the order of the parameters. -/
theorem arguments_params (h : arguments r command values ps = .ok args) :
    args.map (·.1) = ps.filter fun p => values.contains p.name := by
  induction ps generalizing args with
  | nil => cases h; rfl
  | cons p ps ih =>
    rcases arguments_cons_ok_iff.1 h with ⟨hnone, -, hrest⟩ | ⟨raw, a, more, hraw, -, hmore, rfl⟩
    · have hskip : values.contains p.name = false := by simp [OrderedMap.contains, hnone]
      rw [List.filter_cons, hskip, ih hrest]
      rfl
    · have hkeep : values.contains p.name = true := by simp [OrderedMap.contains, hraw]
      rw [List.filter_cons, hkeep, List.map_cons, ih hmore]
      rfl

theorem arguments_congr (h : ∀ p ∈ ps, values'.get? p.name = values.get? p.name) :
    arguments r command values' ps = arguments r command values ps := by
  induction ps with
  | nil => rfl
  | cons p ps ih =>
    obtain ⟨hp, hps⟩ := List.forall_mem_cons.1 h
    rw [arguments, arguments, hp, ih hps]

/-! ## Calls -/

/-- The call is the name of the command and, for each declared parameter that has a value, its name
(unless it is the direct one) and its argument, in the order of the declaration; the statements are
the scripts of the paths among the values, in the same order. -/
structure Follows (r : ClassRegistry) (c : Command) (values : OrderedMap String String)
    (args : List (Parameter × Argument)) (k : Call) : Prop where
  command : k.command = c
  declared : args.map (·.1) = c.parameters.filter fun p => values.contains p.name
  given : ∀ pa ∈ args, ∃ raw, values.get? pa.1.name = some raw ∧ argument r pa.1 raw = .ok pa.2
  line : k.line = Text.joinWith " " (c.name :: args.flatMap fun pa =>
    if pa.1.name = directName then [pa.2.literal] else [pa.1.name, pa.2.literal])
  statements : k.statements = (specifiers r values c.parameters).flatMap (·.statements)

theorem words_eq (pa : Parameter × Argument) :
    words pa =
      if pa.1.name = directName then [pa.2.literal] else [pa.1.name, pa.2.literal] := by
  simp [words, Parameter.isDirect]

theorem follows_arguments {c : Command} (h : arguments r c.name values c.parameters = .ok args) :
    Follows r c values args ⟨c, args.flatMap (·.2.statements),
      Text.joinWith " " (c.name :: args.flatMap words)⟩ where
  command := rfl
  declared := arguments_params h
  given := fun pa hpa => (arguments_mem h hpa).2
  line := by rw [← funext words_eq]
  statements := by
    show args.flatMap (·.2.statements) = _
    rw [arguments_statements h, List.map_flatMap]
    rfl

end Call

theorem call_of_lookup {classes : ClassRegistry} {commands : CommandRegistry} {name : String}
    {c : Command} (hc : commands.lookup? name = some c) (values : OrderedMap String String) :
    call classes commands name values =
      (Call.arguments classes c.name values c.parameters).map fun args =>
        ⟨c, args.flatMap (·.2.statements),
          Text.joinWith " " (c.name :: args.flatMap Call.words)⟩ := by
  simp only [call, hc]
  cases Call.arguments classes c.name values c.parameters <;> rfl

theorem call_eq_ok_iff {classes : ClassRegistry} {commands : CommandRegistry} {name : String}
    {values : OrderedMap String String} {k : Call} :
    call classes commands name values = .ok k ↔
      ∃ c args, commands.lookup? name = some c ∧
        Call.arguments classes c.name values c.parameters = .ok args ∧
        k = ⟨c, args.flatMap (·.2.statements),
          Text.joinWith " " (c.name :: args.flatMap Call.words)⟩ := by
  unfold call
  cases commands.lookup? name with
  | none => simp
  | some c =>
    rw [Outcome.bind_eq_ok]
    constructor
    · rintro ⟨args, hargs, hk⟩
      exact ⟨c, args, rfl, hargs, (Except.ok.inj hk).symm⟩
    · rintro ⟨_, args, ⟨⟩, hargs, rfl⟩
      exact ⟨args, hargs, rfl⟩

theorem exists_follows {classes : ClassRegistry} {commands : CommandRegistry} {name : String}
    {values : OrderedMap String String} {k : Call} (h : call classes commands name values = .ok k) :
    ∃ args, Call.Follows classes k.command values args k := by
  obtain ⟨c, args, -, hargs, rfl⟩ := call_eq_ok_iff.1 h
  exact ⟨args, Call.follows_arguments hargs⟩

/-- **A call follows the declaration of its command**: where following the paths among the values is
no fault, either it is refused for the first parameter that fails, or no parameter fails and it is
written out from the declared parameters that have a value. Values for other names make no
difference, nor does the order of the values. -/
theorem call_serialized {classes : ClassRegistry} {commands : CommandRegistry} {name : String}
    {c : Command} (hc : commands.lookup? name = some c) (values : OrderedMap String String) :
    ((∀ p ∈ c.parameters, ∀ raw f, p.kind = .specifier → values.get? p.name = some raw →
        resolve classes raw (Naming.variableStem p.name) ≠ .error (.fault f)) →
      (∃ refusal front p back, call classes commands name values = .error (.refused refusal) ∧
        c.parameters = front ++ p :: back ∧
        (∀ q ∈ front, ∀ earlier, ¬ Call.Fails classes c.name values q earlier) ∧
        Call.Fails classes c.name values p refusal) ∨
      ∃ k args, call classes commands name values = .ok k ∧
        (∀ p ∈ c.parameters, ∀ refusal, ¬ Call.Fails classes c.name values p refusal) ∧
        Call.Follows classes c values args k) ∧
    ∀ values', (∀ p ∈ c.parameters, values'.get? p.name = values.get? p.name) →
      call classes commands name values' = call classes commands name values := by
  refine ⟨fun hpaths => ?_, fun values' hagree => ?_⟩
  · cases hargs : Call.arguments classes c.name values c.parameters with
    | ok args =>
      have hcall := (call_of_lookup hc values).trans (congrArg _ hargs)
      refine .inr ⟨_, args, hcall, fun p hp refusal => ?_, Call.follows_arguments hargs⟩
      obtain ⟨more, hmore⟩ := Call.exists_arguments_iff.1 ⟨args, hargs⟩ p hp
      exact Call.not_fails_of_entry hmore
    | error x =>
      have hcall := (call_of_lookup hc values).trans (congrArg _ hargs)
      obtain ⟨front, p, back, hsplit, hfront, hp⟩ := Call.arguments_eq_error_iff.1 hargs
      cases x with
      | refused refusal =>
        refine .inl ⟨refusal, front, p, back, hcall, hsplit, fun q hq earlier => ?_,
          Call.entry_eq_refused_iff.1 hp⟩
        obtain ⟨more, hmore⟩ := hfront q hq
        exact Call.not_fails_of_entry hmore
      | fault f =>
        obtain ⟨raw, hraw, hfault⟩ := Call.entry_eq_fault_iff.1 hp
        obtain ⟨hkind, hpath⟩ := Call.argument_eq_fault_iff.1 hfault
        have hmem : p ∈ c.parameters := hsplit ▸ List.mem_append_right _ List.mem_cons_self
        exact absurd hpath (hpaths p hmem raw f hkind hraw)
  · rw [call_of_lookup hc, call_of_lookup hc, Call.arguments_congr hagree]

/-- Without values the copying fails for the first of its parameters; with values it is the same
call whatever their order and whatever other names have one. -/
theorem call_serialized_duplicate :
    ∃ r k c made, ClassRegistry.empty.load shelf [] = .ok r ∧
      CommandRegistry.empty.load shelfCommands (shelf.map (·.name)) = .ok k ∧
      k.lookup? "duplicate" = some c ∧
      call r k "duplicate" .empty = .error (.refused (.missingParameter "duplicate" "value")) ∧
      call r k "duplicate" (.ofList [("to", "/playlists/2"), ("value", "/playlists/1/tracks/3")]) =
        .ok made ∧
      made.line = "duplicate value2 to to1" ∧
      call r k "duplicate" (.ofList [("value", "/playlists/1/tracks/3"), ("speed", "9"),
        ("to", "/playlists/2")]) = .ok made := by
  obtain ⟨r, k, made, hr, hk, hmade, hline⟩ := exists_called shelf shelfCommands "duplicate"
    (.ofList [("to", "/playlists/2"), ("value", "/playlists/1/tracks/3")])
    (fun made => decide (made.line = "duplicate value2 to to1")) (by decide +kernel)
  have hlookup : ((CommandRegistry.empty.load shelfCommands (shelf.map (·.name))).toOption.bind
      (·.lookup? "duplicate")) =
      some ⟨"duplicate", [⟨"value", .specifier, false⟩, ⟨"to", .specifier, true⟩]⟩ := by
    decide +kernel
  rw [hk] at hlookup
  have hc : k.lookup? "duplicate" =
      some ⟨"duplicate", [⟨"value", .specifier, false⟩, ⟨"to", .specifier, true⟩]⟩ := hlookup
  refine ⟨r, k, _, made, hr, hk, hc, ?_, hmade, of_decide_eq_true hline, ?_⟩
  · have hfails : Call.Fails r "duplicate" .empty ⟨"value", .specifier, false⟩
        (.missingParameter "duplicate" "value") := .missing rfl rfl
    rcases (call_serialized hc .empty).1 (fun p _ raw f _ hraw => by cases hraw) with
      ⟨refusal, front, p, back, hcall, hsplit, hfront, hp⟩ | ⟨_, _, _, hnone, -⟩
    · cases front with
      | nil =>
        obtain ⟨rfl, -⟩ := List.cons.inj hsplit
        rw [hcall]
        cases hp with
        | missing => rfl
        | rejected hraw => cases hraw
      | cons q front =>
        obtain ⟨rfl, -⟩ := List.cons.inj hsplit
        exact absurd hfails (hfront _ List.mem_cons_self _)
    · exact absurd hfails (hnone _ List.mem_cons_self _)
  · have hsame : call r k "duplicate" (.ofList [("value", "/playlists/1/tracks/3"),
        ("speed", "9"), ("to", "/playlists/2")]) =
        call r k "duplicate"
          (.ofList [("to", "/playlists/2"), ("value", "/playlists/1/tracks/3")]) :=
      (call_serialized hc _).2 _ (by decide +kernel)
    exact hsame.trans hmade

end ScriptGateway
