import ScriptGateway.Command.Table
import ScriptGateway.Proofs.OrderedMap
import ScriptGateway.Proofs.Outcome

/-!
# The table of commands

A declaration that is accepted makes one command, `Command.made`. A table has under each key what
the last declaration with that key makes (`CommandTable.get?_ofDecls`), and nothing else
(`CommandTable.exists_decl_of_mem`); its commands stand in the order in which their keys first came
(`CommandTable.keys_ofDecls`). When there is none, the first declaration that is refused is reported
(`CommandTable.ofDecls_eq_error_iff`). Main statement: `CommandRegistry.load_refines`.
-/

set_option autoImplicit false

namespace ScriptGateway

/-- The command that a declaration makes when it is accepted. -/
def Command.made (classKeys : List Key) (d : CommandDecl) : Command :=
  ⟨d.name, d.parameters.map fun p => ⟨p.name, .of p.type classKeys, p.optional⟩⟩

@[simp] theorem Command.name_made (classKeys : List Key) (d : CommandDecl) :
    (made classKeys d).name = d.name := rfl

theorem Command.eq_made {classKeys : List Key} {d : CommandDecl} {c : Command}
    (h : ofDecl classKeys d = .ok c) : c = made classKeys d := by
  unfold ofDecl at h
  split at h
  · cases h
  · split at h
    · cases h
    · exact (Except.ok.inj h).symm

/-- Only a declaration with the name of a command is accepted. -/
theorem Command.isName_of_ofDecl {classKeys : List Key} {d : CommandDecl} {c : Command}
    (h : ofDecl classKeys d = .ok c) : isName d.name = true := by
  unfold ofDecl at h
  split at h
  · cases h
  · rename_i hname
    simpa using hname

/-! ## Declarations that are refused -/

/-- What is wrong with a declaration. A repeated parameter is told of a command with a valid name
only. -/
inductive CommandDecl.Refused (d : CommandDecl) : Flaw → Prop
  | name : Command.isName d.name = false → Refused d .commandName
  | parameter : Command.isName d.name = true → ¬ (d.parameters.map (·.name)).Nodup →
      Refused d .repeatedParameter

theorem CommandDecl.exists_refused_iff {d : CommandDecl} :
    (∃ flaw, d.Refused flaw) ↔
      Command.isName d.name = false ∨ ¬ (d.parameters.map (·.name)).Nodup := by
  constructor
  · rintro ⟨flaw, hname | ⟨-, hrepeated⟩⟩
    · exact .inl hname
    · exact .inr hrepeated
  · intro h
    cases hname : Command.isName d.name with
    | false => exact ⟨_, .name hname⟩
    | true => exact ⟨_, .parameter hname (h.resolve_left (by simp [hname]))⟩

theorem Command.ofDecl_eq_error_iff {classKeys : List Key} {d : CommandDecl} {f : Fault} :
    ofDecl classKeys d = .error f ↔ ∃ flaw, d.Refused flaw ∧ f = .definition d.name flaw := by
  constructor
  · intro h
    unfold ofDecl at h
    split at h
    · rename_i hname
      cases h
      exact ⟨_, .name (by simpa using hname), rfl⟩
    · rename_i hname
      split at h
      · rename_i hrepeated
        cases h
        exact ⟨_, .parameter (by simpa using hname) hrepeated, rfl⟩
      · cases h
  · rintro ⟨flaw, hname | ⟨hname, hrepeated⟩, rfl⟩
    · simp [ofDecl, hname]
    · simp [ofDecl, hname, hrepeated]

theorem Command.exists_ofDecl_iff {classKeys : List Key} {d : CommandDecl} :
    (∃ c, ofDecl classKeys d = .ok c) ↔ ∀ flaw, ¬ d.Refused flaw := by
  have hfails : (∃ f, ofDecl classKeys d = .error f) ↔ ∃ flaw, d.Refused flaw := by
    simp only [ofDecl_eq_error_iff]
    constructor
    · rintro ⟨f, flaw, hflaw, -⟩
      exact ⟨flaw, hflaw⟩
    · rintro ⟨flaw, hflaw⟩
      exact ⟨_, flaw, hflaw, rfl⟩
  rw [← not_exists, ← hfails, Outcome.exists_error_iff, not_not]

/-- The first declaration that is refused is reported. -/
theorem CommandTable.ofDecls_eq_error_iff {ds : List CommandDecl} {classNames : List String}
    {f : Fault} :
    ofDecls ds classNames = .error f ↔ ∃ front d back flaw, ds = front ++ d :: back ∧
      (∀ e ∈ front, ∀ flaw, ¬ e.Refused flaw) ∧ d.Refused flaw ∧ f = .definition d.name flaw := by
  simp only [ofDecls, Outcome.bind_eq_error, pure, Except.pure, reduceCtorEq, and_false,
    exists_false, or_false, Outcome.mapM_eq_error_iff, Command.exists_ofDecl_iff,
    Command.ofDecl_eq_error_iff]
  constructor
  · rintro ⟨front, d, back, hds, hfront, flaw, hflaw, hf⟩
    exact ⟨front, d, back, flaw, hds, hfront, hflaw, hf⟩
  · rintro ⟨front, d, back, flaw, hds, hfront, hflaw, hf⟩
    exact ⟨front, d, back, hds, hfront, flaw, hflaw, hf⟩

/-- **What a table is made of**: there is one exactly when no declaration is refused, and it is
filled with what the declarations make, one after the other. -/
theorem CommandTable.ofDecls_ok_iff {ds : List CommandDecl} {classNames : List String}
    {t : CommandTable} :
    ofDecls ds classNames = .ok t ↔ (∀ d ∈ ds, ∀ flaw, ¬ d.Refused flaw) ∧
      t = ⟨.ofList (ds.map fun d => (Key.of d.name, .made (classNames.map Key.of) d))⟩ := by
  have haccepted : (∀ d ∈ ds, ∀ flaw, ¬ d.Refused flaw) ↔
      ∃ commands, ds.mapM (Command.ofDecl (classNames.map Key.of)) = .ok commands := by
    rw [Outcome.exists_mapM_iff]
    exact forall₂_congr fun d _ => Command.exists_ofDecl_iff.symm
  rw [haccepted]
  simp only [ofDecls, Outcome.bind_eq_ok, pure, Except.pure, Except.ok.injEq]
  constructor
  · rintro ⟨commands, hcommands, rfl⟩
    obtain rfl := Outcome.mapM_eq_map (fun d c => Command.eq_made) hcommands
    refine ⟨⟨_, hcommands⟩, ?_⟩
    rw [List.map_map]
    rfl
  · rintro ⟨⟨commands, hcommands⟩, rfl⟩
    obtain rfl := Outcome.mapM_eq_map (fun d c => Command.eq_made) hcommands
    refine ⟨_, hcommands, ?_⟩
    rw [List.map_map]
    rfl

theorem CommandTable.exists_ofDecls_iff {ds : List CommandDecl} {classNames : List String} :
    (∃ t, ofDecls ds classNames = .ok t) ↔ ∀ d ∈ ds, ∀ flaw, ¬ d.Refused flaw := by
  simp only [ofDecls_ok_iff, exists_and_left, exists_eq, and_true]

/-! ## What a table holds -/

/-- Under a key stands the last of the declarations with that key. -/
theorem CommandTable.get?_ofDecls {ds : List CommandDecl} {classNames : List String}
    {t : CommandTable} (h : ofDecls ds classNames = .ok t) (k : Key) :
    t.commands.get? k =
      (ds.filter (Key.of ·.name = k)).getLast?.map (.made (classNames.map Key.of)) := by
  rw [(ofDecls_ok_iff.1 h).2, OrderedMap.get?_ofList_eq_getLast?, List.filter_map,
    List.getLast?_map, Option.map_map]
  simp only [Function.comp_def]

/-- The keys stand in the order in which they first came. -/
theorem CommandTable.keys_ofDecls {ds : List CommandDecl} {classNames : List String}
    {t : CommandTable} (h : ofDecls ds classNames = .ok t) :
    t.commands.keys = (ds.map (Key.of ·.name)).eraseDups := by
  rw [(ofDecls_ok_iff.1 h).2, OrderedMap.keys_ofList, List.map_map]
  rfl

theorem CommandTable.nodup_keys_ofDecls {ds : List CommandDecl} {classNames : List String}
    {t : CommandTable} (h : ofDecls ds classNames = .ok t) : t.commands.keys.Nodup := by
  rw [keys_ofDecls h]
  exact nodup_eraseDups _

/-- Declarations that are accepted in a row are accepted one by one. -/
theorem CommandTable.ofDecl_of_ofDecls {ds : List CommandDecl} {classNames : List String}
    {t : CommandTable} (h : ofDecls ds classNames = .ok t) {d : CommandDecl} (hd : d ∈ ds) :
    Command.ofDecl (classNames.map Key.of) d = .ok (.made (classNames.map Key.of) d) := by
  obtain ⟨c, hc⟩ := Command.exists_ofDecl_iff.2 ((ofDecls_ok_iff.1 h).1 d hd)
  rw [hc, Command.eq_made hc]

/-- A command stands under the key of its name, and a declaration made it. -/
theorem CommandTable.get?_name_of_mem {ds : List CommandDecl} {classNames : List String}
    {t : CommandTable} (h : ofDecls ds classNames = .ok t) {c : Command}
    (hc : c ∈ t.commands.values) :
    t.commands.get? (Key.of c.name) = some c ∧ ∃ d ∈ ds, c = .made (classNames.map Key.of) d := by
  obtain ⟨k, hk⟩ := (OrderedMap.mem_values_iff (nodup_keys_ofDecls h)).1 hc
  have hmade := hk
  rw [get?_ofDecls h, Option.map_eq_some_iff] at hmade
  obtain ⟨d, hd, rfl⟩ := hmade
  obtain ⟨hmem, hkey⟩ := List.mem_filter.1 (List.mem_of_getLast? hd)
  rw [Command.name_made, of_decide_eq_true hkey]
  exact ⟨hk, d, hmem, rfl⟩

theorem CommandTable.exists_decl_of_mem {ds : List CommandDecl} {classNames : List String}
    {t : CommandTable} (h : ofDecls ds classNames = .ok t) {c : Command}
    (hc : c ∈ t.commands.values) : ∃ d ∈ ds, c = .made (classNames.map Key.of) d :=
  (get?_name_of_mem h hc).2

/-- The commands stand under the keys of their names. -/
theorem CommandTable.map_key_values {ds : List CommandDecl} {classNames : List String}
    {t : CommandTable} (h : ofDecls ds classNames = .ok t) :
    t.commands.values.map (Key.of ·.name) = t.commands.keys := by
  rw [OrderedMap.values, OrderedMap.keys, List.map_map]
  refine List.map_congr_left fun e he => ?_
  have hmade := OrderedMap.find?_of_mem (nodup_keys_ofDecls h) he
  rw [← OrderedMap.get?, get?_ofDecls h, Option.map_eq_some_iff] at hmade
  obtain ⟨d, hd, hmade⟩ := hmade
  obtain ⟨-, hkey⟩ := List.mem_filter.1 (List.mem_of_getLast? hd)
  rw [Function.comp, ← hmade, Command.name_made]
  exact of_decide_eq_true hkey

/-! ## Loading -/

theorem CommandRegistry.load_ok_iff {ds : List CommandDecl} {classNames : List String}
    {r : CommandRegistry} :
    empty.load ds classNames = .ok r ↔
      ∃ t, CommandTable.ofDecls ds classNames = .ok t ∧ r = ⟨some t⟩ := by
  have hload : empty.load ds classNames =
      (CommandTable.ofDecls ds classNames).map fun t => ⟨some t⟩ := rfl
  rw [hload, Outcome.map_eq_ok]
  exact exists_congr fun t => and_congr_right fun _ => eq_comm

/-- The commands of a loaded table are found by their names, which have the shape of such. -/
theorem CommandRegistry.lookup?_name_of_mem {ds : List CommandDecl} {classNames : List String}
    {r : CommandRegistry} (h : empty.load ds classNames = .ok r) {c : Command} (hc : c ∈ r.list) :
    Command.isName c.name = true ∧ r.lookup? c.name = some c := by
  obtain ⟨t, ht, rfl⟩ := load_ok_iff.1 h
  obtain ⟨hlookup, d, hd, hmade⟩ := CommandTable.get?_name_of_mem ht hc
  refine ⟨?_, hlookup⟩
  rw [hmade]
  exact Command.isName_of_ofDecl (CommandTable.ofDecl_of_ofDecls ht hd)

/-- **A table refines its declarations**: loading fails exactly when a declaration has no valid name
or repeats a parameter. Otherwise a name in any spelling finds what its last declaration makes, and
the commands are listed once each, in the order in which their names first appear. -/
theorem CommandRegistry.load_refines (ds : List CommandDecl) (classNames : List String) :
    ((∃ name flaw, empty.load ds classNames = .error (.definition name flaw)) ↔
      ∃ d ∈ ds, Command.isName d.name = false ∨ ¬ (d.parameters.map (·.name)).Nodup) ∧
    ((∀ d ∈ ds, Command.isName d.name = true ∧ (d.parameters.map (·.name)).Nodup) →
      ∃ r, empty.load ds classNames = .ok r ∧
        (∀ s, r.lookup? s = (ds.filter (Key.of ·.name = Key.of s)).getLast?.map fun d =>
          ⟨d.name, d.parameters.map fun p =>
            ⟨p.name, .of p.type (classNames.map Key.of), p.optional⟩⟩) ∧
        r.list.map (Key.of ·.name) = (ds.map (Key.of ·.name)).eraseDups ∧
        ∀ c ∈ r.list, r.lookup? c.name = some c) := by
  refine ⟨?_, fun hvalid => ?_⟩
  · have hload : ∀ f, empty.load ds classNames = .error f ↔
        CommandTable.ofDecls ds classNames = .error f := fun f => Outcome.map_eq_error
    simp only [hload, ← CommandDecl.exists_refused_iff]
    constructor
    · rintro ⟨name, reason, h⟩
      obtain ⟨front, d, back, flaw, rfl, -, hflaw, -⟩ := CommandTable.ofDecls_eq_error_iff.1 h
      exact ⟨d, List.mem_append_right _ List.mem_cons_self, flaw, hflaw⟩
    · rintro ⟨d, hd, flaw, hflaw⟩
      obtain ⟨f, hf⟩ := Outcome.exists_error_iff.2 fun hok =>
        CommandTable.exists_ofDecls_iff.1 hok d hd flaw hflaw
      obtain ⟨-, e, -, reason, -, -, -, rfl⟩ := CommandTable.ofDecls_eq_error_iff.1 hf
      exact ⟨_, _, hf⟩
  · obtain ⟨t, ht⟩ := CommandTable.exists_ofDecls_iff.2 fun d hd flaw hflaw => by
      rcases CommandDecl.exists_refused_iff.1 ⟨flaw, hflaw⟩ with hname | hrepeated
      · rw [(hvalid d hd).1] at hname
        cases hname
      · exact hrepeated (hvalid d hd).2
    refine ⟨⟨some t⟩, load_ok_iff.2 ⟨t, ht, rfl⟩, fun s => CommandTable.get?_ofDecls ht _, ?_, ?_⟩
    · exact (CommandTable.map_key_values ht).trans (CommandTable.keys_ofDecls ht)
    · exact fun c hc => (CommandTable.get?_name_of_mem ht hc).1

/-- A command that is declared twice, in two spellings, with another one in between. -/
def redeclared : List CommandDecl :=
  [⟨"next track", []⟩, ⟨"play", []⟩, ⟨"nextTrack", [⟨"by", "integer", false⟩]⟩]

theorem CommandRegistry.load_refines_redeclared :
    ∃ r, empty.load redeclared [] = .ok r ∧
      r.lookup? "next_track" = some ⟨"nextTrack", [⟨"by", .number, false⟩]⟩ ∧
      r.lookup? "previous track" = none ∧
      r.list.map (Key.of ·.name) = [⟨"next track"⟩, ⟨"play"⟩] := by
  obtain ⟨r, hr, hlookup, hlist, -⟩ := (load_refines redeclared []).2 (by decide)
  refine ⟨r, hr, ?_, ?_, ?_⟩
  · rw [hlookup]
    decide
  · rw [hlookup]
    decide
  · rw [hlist]
    decide

end ScriptGateway
