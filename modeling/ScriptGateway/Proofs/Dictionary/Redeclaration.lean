import ScriptGateway.Proofs.Command.Table
import ScriptGateway.Proofs.Dictionary.Merging

/-!
# Commands declared again

Of several declarations of a command the last one is to count. It is looked for twice: the reader of
a scripting definition keeps the last declaration of each spelling, in the place of the first one
(`Dictionary.commands_ofRoot`), and the table keeps the last of those whose names share a key
(`CommandTable.get?_ofDecls`). Together they give the last declaration of the spelling that came up
last, `newest?`, which need not be the last declaration of all.

Main statement: `CommandRegistry.load_ofRoot_last_iff`.
-/

set_option autoImplicit false

namespace ScriptGateway

open Markup Definition

/-! ## The reader -/

namespace Definition

/-- The command elements of a document with their names, in the order of the suites. -/
def commandItems (root : Node) : List (String × Node) := itemsWith "command" "name" root

/-- The declarations of a command in any spelling of its name. -/
def declarationsOf (root : Node) (k : Key) : List (String × Node) :=
  (commandItems root).filter (Key.of ·.1 = k)

/-- The spellings in which a command is declared, one for each declaration. -/
def spellings (root : Node) (k : Key) : List String := (declarationsOf root k).map (·.1)

/-- The last declaration with exactly this name. -/
def lastNamed? (root : Node) (name : String) : Option (String × Node) :=
  ((commandItems root).filter (·.1 = name)).getLast?

theorem name_commandOf {root : Node} {e : String × Node} (he : e ∈ commandItems root) :
    (commandOf e.2).name = e.1 := by
  have hname := (given?_eq_some_iff.1 (mem_itemsWith.1 he).2.2).1
  simp [commandOf, hname]

theorem mem_of_lastNamed? {root : Node} {name : String} {e : String × Node}
    (h : lastNamed? root name = some e) : e ∈ commandItems root ∧ e.1 = name := by
  simpa using List.mem_filter.1 (List.mem_of_getLast? h)

theorem exists_lastNamed? {root : Node} {name : String}
    (h : name ∈ (commandItems root).map (·.1)) : ∃ e, lastNamed? root name = some e := by
  obtain ⟨e, he, hname⟩ := List.mem_map.1 h
  have hmem : e ∈ (commandItems root).filter (·.1 = name) :=
    List.mem_filter.2 ⟨he, by simpa using hname⟩
  exact Option.isSome_iff_exists.1 (List.getLast?_isSome.2 (List.ne_nil_of_mem hmem))

end Definition

/-- The reader keeps the last declaration of each spelling, in the place of its first one. -/
theorem Dictionary.commands_ofRoot (root : Node) :
    (Dictionary.ofRoot root).commands =
      ((commandItems root).map (·.1)).eraseDups.filterMap fun name =>
        (lastNamed? root name).map (commandOf ·.2) := by
  have hkeys : ((commandItems root).map fun e => (e.1, commandOf e.2)).map (·.1) =
      (commandItems root).map (·.1) := by
    rw [List.map_map]
    rfl
  show (OrderedMap.ofList ((commandItems root).map fun e => (e.1, commandOf e.2))).values = _
  rw [OrderedMap.values_eq_filterMap (OrderedMap.nodup_keys_ofList _), OrderedMap.keys_ofList,
    hkeys]
  refine List.filterMap_congr fun name _ => ?_
  rw [OrderedMap.get?_ofList_eq_getLast?, List.filter_map, List.getLast?_map, Option.map_map]
  rfl

/-! ## Both together -/

section

variable {root : Node} {classNames : List String} {t : CommandTable} {k : Key}

/-- The command that a declaration makes, if it is accepted. -/
def Definition.commandFrom (classNames : List String) (e : String × Node) : Option Command :=
  (Command.ofDecl (classNames.map Key.of) (commandOf e.2)).toOption

/-- Of the spellings of a key, the one that came up last: no other one has its first declaration
after the first one of this. -/
def Definition.newest? (root : Node) (k : Key) : Option String :=
  (spellings root k).eraseDups.getLast?

theorem mem_spellings {name : String} :
    name ∈ spellings root k ↔ name ∈ (commandItems root).map (·.1) ∧ Key.of name = k := by
  simp only [spellings, declarationsOf, List.mem_map, List.mem_filter, decide_eq_true_eq]
  constructor
  · rintro ⟨e, ⟨he, hk⟩, rfl⟩
    exact ⟨⟨e, he, rfl⟩, hk⟩
  · rintro ⟨⟨e, he, rfl⟩, hk⟩
    exact ⟨e, ⟨he, hk⟩, rfl⟩

theorem filter_names (root : Node) (k : Key) :
    ((commandItems root).map (·.1)).filter (Key.of · = k) = spellings root k := by
  rw [List.filter_map, spellings, declarationsOf]
  simp only [Function.comp_def]

/-- The declarations that the reader keeps for a key, one for each spelling. -/
theorem filter_commands (root : Node) (k : Key) :
    (Dictionary.ofRoot root).commands.filter (Key.of ·.name = k) =
      (spellings root k).eraseDups.filterMap fun name =>
        (lastNamed? root name).map (commandOf ·.2) := by
  rw [Dictionary.commands_ofRoot, List.filter_filterMap, ← filter_names, ← filter_eraseDups,
    List.filterMap_filter]
  refine List.filterMap_congr fun name _ => ?_
  cases hlast : lastNamed? root name with
  | none => simp
  | some e =>
    obtain ⟨he, rfl⟩ := mem_of_lastNamed? hlast
    simp [Option.filter, name_commandOf he]

/-- Every spelling has a last declaration, and it is accepted. -/
theorem exists_commandFrom
    (h : CommandTable.ofDecls (Dictionary.ofRoot root).commands classNames = .ok t) {name : String}
    (hname : name ∈ (commandItems root).map (·.1)) :
    ∃ e, lastNamed? root name = some e ∧ (commandOf e.2).name = name ∧
      commandFrom classNames e = some (.made (classNames.map Key.of) (commandOf e.2)) := by
  obtain ⟨e, hlast⟩ := exists_lastNamed? hname
  obtain ⟨he, rfl⟩ := mem_of_lastNamed? hlast
  have hkept : commandOf e.2 ∈ (Dictionary.ofRoot root).commands := by
    rw [Dictionary.commands_ofRoot]
    exact List.mem_filterMap.2 ⟨e.1, List.mem_eraseDups.2 hname, by rw [hlast]; rfl⟩
  refine ⟨e, hlast, name_commandOf he, ?_⟩
  rw [commandFrom, CommandTable.ofDecl_of_ofDecls h hkept]
  rfl

theorem exists_newest? {name : String} (h : name ∈ spellings root k) :
    ∃ newest ∈ spellings root k, newest? root k = some newest := by
  have hne : (spellings root k).eraseDups ≠ [] := List.ne_nil_of_mem (List.mem_eraseDups.2 h)
  obtain ⟨newest, hnewest⟩ := Option.isSome_iff_exists.1 (List.getLast?_isSome.2 hne)
  exact ⟨newest, List.mem_eraseDups.1 (List.mem_of_getLast? hnewest), hnewest⟩

/-- Under a key stands what the last declaration of its newest spelling makes. -/
theorem get?_commands
    (h : CommandTable.ofDecls (Dictionary.ofRoot root).commands classNames = .ok t) (k : Key) :
    t.commands.get? k =
      (newest? root k).bind fun name => (lastNamed? root name).bind (commandFrom classNames) := by
  rw [CommandTable.get?_ofDecls h, filter_commands, newest?]
  rcases List.eq_nil_or_concat (spellings root k).eraseDups with hnone | ⟨older, name, hsome⟩
  · rw [hnone]
    rfl
  · have hname : name ∈ spellings root k :=
      List.mem_eraseDups.1 (hsome ▸ by simp)
    obtain ⟨e, hlast, -, hfrom⟩ := exists_commandFrom h (mem_spellings.1 hname).1
    rw [hsome]
    simp [hlast, hfrom]

/-- The last declaration of a command is the last one with its own name. -/
theorem lastNamed?_of_getLast? {e : String × Node}
    (h : (declarationsOf root k).getLast? = some e) : lastNamed? root e.1 = some e := by
  have hsame : (commandItems root).filter (·.1 = e.1) =
      (declarationsOf root k).filter (·.1 = e.1) := by
    have hkey : Key.of e.1 = k := of_decide_eq_true (List.mem_filter.1 (List.mem_of_getLast? h)).2
    rw [declarationsOf, List.filter_filter]
    refine List.filter_congr fun x _ => ?_
    by_cases hx : x.1 = e.1
    · simp [hx, hkey]
    · simp [hx]
  obtain ⟨front, hfront⟩ := List.getLast?_eq_some_iff.1 h
  rw [lastNamed?, hsame, hfront, List.filter_append]
  simp

/-- The command under a key is that of its last declaration exactly when the last spelling is the
newest one: commands of different spellings have different names. -/
theorem get?_commands_eq_last_iff
    (h : CommandTable.ofDecls (Dictionary.ofRoot root).commands classNames = .ok t) (k : Key) :
    t.commands.get? k = (declarationsOf root k).getLast?.bind (commandFrom classNames) ↔
      newest? root k = (spellings root k).getLast? := by
  rw [get?_commands h]
  cases hlast : (declarationsOf root k).getLast? with
  | none =>
    have hspellings : spellings root k = [] := by
      rw [spellings, List.getLast?_eq_none_iff.1 hlast, List.map_nil]
    simp [newest?, hspellings]
  | some last =>
    have hspelling : (spellings root k).getLast? = some last.1 := by
      rw [spellings, List.getLast?_map, hlast, Option.map_some]
    obtain ⟨newest, hmem, hnewest⟩ := exists_newest? (List.mem_of_getLast? hspelling)
    obtain ⟨e, he, hname, hfrom⟩ := exists_commandFrom h (mem_spellings.1 hmem).1
    obtain ⟨e', he', hname', hfrom'⟩ :=
      exists_commandFrom h (mem_spellings.1 (List.mem_of_getLast? hspelling)).1
    obtain rfl := Option.some.inj ((lastNamed?_of_getLast? hlast).symm.trans he')
    rw [hnewest, hspelling, Option.bind_some, he, Option.bind_some, Option.bind_some, hfrom, hfrom',
      Option.some.injEq, Option.some.injEq]
    constructor
    · intro hsame
      have hnames := congrArg Command.name hsame
      rwa [Command.name_made, Command.name_made, hname, hname'] at hnames
    · rintro rfl
      obtain rfl := Option.some.inj (he.symm.trans he')
      rfl

end

/-- **The last declaration of a command, and when it counts**: a loaded table has under each key
what the last declaration of its newest spelling makes. That is the last declaration in any spelling
exactly when the last spelling is the newest one. -/
theorem CommandRegistry.load_ofRoot_last_iff {root : Node} {classNames : List String}
    {r : CommandRegistry}
    (h : CommandRegistry.empty.load (Dictionary.ofRoot root).commands classNames = .ok r) :
    ∃ t, r.table? = some t ∧ ∀ k,
      t.commands.get? k =
        (newest? root k).bind (fun name => (lastNamed? root name).bind (commandFrom classNames)) ∧
      (t.commands.get? k = (declarationsOf root k).getLast?.bind (commandFrom classNames) ↔
        newest? root k = (spellings root k).getLast?) := by
  obtain ⟨t, ht, rfl⟩ := load_ok_iff.1 h
  exact ⟨t, rfl, fun k => ⟨get?_commands ht k, get?_commands_eq_last_iff ht k⟩⟩

/-- The second suite declares `play` again, and `next track` in another spelling and then again. -/
def Definition.respelled : Node := .element "dictionary" [] [
  .element "suite" [] [
    .element "command" [("name", "play")] [],
    .element "command" [("name", "next track")] []],
  .element "suite" [] [
    .element "command" [("name", "nextTrack")] [
      .element "direct-parameter" [("type", "integer")] []],
    .element "command" [("name", "play")] [
      .element "parameter" [("name", "once"), ("type", "boolean"), ("optional", "yes")] []],
    .element "command" [("name", "next track")] [
      .element "parameter" [("name", "by"), ("type", "integer")] []]]]

theorem CommandRegistry.exists_loaded_respelled :
    ∃ r, CommandRegistry.empty.load (Dictionary.ofRoot respelled).commands [] = .ok r := by
  have hok :
      (CommandRegistry.empty.load (Dictionary.ofRoot respelled).commands []).toOption.isSome := by
    decide +kernel
  obtain ⟨r, hr⟩ := Option.isSome_iff_exists.1 hok
  exact ⟨r, Outcome.toOption_eq_some.1 hr⟩

/-- The last declaration of `play` counts. -/
theorem CommandRegistry.load_ofRoot_last_iff_play :
    ∃ r, CommandRegistry.empty.load (Dictionary.ofRoot respelled).commands [] = .ok r ∧
      r.lookup? "PLAY" = some ⟨"play", [⟨"once", .boolean, true⟩]⟩ := by
  obtain ⟨r, hr⟩ := exists_loaded_respelled
  obtain ⟨t, ht, hcommands⟩ := load_ofRoot_last_iff hr
  have hlast := (hcommands (Key.of "PLAY")).2.2 (by decide +kernel)
  refine ⟨r, hr, ?_⟩
  rw [lookup?, ht, Option.bind_some, CommandTable.lookup?, hlast]
  decide +kernel

/-- The last declaration of `next track` does not count: the spelling in between is a newer one. -/
theorem CommandRegistry.last_declaration_passed_over :
    ∃ r t, CommandRegistry.empty.load (Dictionary.ofRoot respelled).commands [] = .ok r ∧
      r.table? = some t ∧
      t.commands.get? (Key.of "next track") = some ⟨"nextTrack", [⟨"value", .number, false⟩]⟩ ∧
      (declarationsOf respelled (Key.of "next track")).getLast?.bind (commandFrom []) =
        some ⟨"next track", [⟨"by", .number, false⟩]⟩ := by
  obtain ⟨r, hr⟩ := exists_loaded_respelled
  obtain ⟨t, ht, rfl⟩ := load_ok_iff.1 hr
  refine ⟨_, t, hr, rfl, ?_, by decide +kernel⟩
  rw [get?_commands ht]
  decide +kernel

end ScriptGateway
