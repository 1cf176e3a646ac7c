import ScriptGateway.Proofs.Command.Sharing
import ScriptGateway.Proofs.Gateway.Requests
import ScriptGateway.Proofs.Schema.Inheritance

/-!
# Writing a property

A write runs the script of the read with two things put in before its last line: the bindings of
the value, and one assignment to the reference that the read answers with (`Specifier.Writes`). The
value has bindings only if it is a path, and their variables are none of those of the path that is
written to (`Specifier.apart_of_stems`): the reference means the same in both scripts, and a path
that is the value means what it means alone.

Whether a property is written at all is for its declaration to say, and of several declarations for
the nearest one on the way up (`ClassDecl.Nearest`). Main statement: `write_reads_back`.
-/

set_option autoImplicit false

namespace ScriptGateway

variable {r : ClassRegistry} {path raw : String} {s v : Specifier} {p : Property}
  {a : Call.Argument}

/-! ## The declaration of a property -/

/-- The declaration of a property that is nearest on the way up from the class of the given name. -/
def ClassDecl.Nearest (all : List ClassDecl) (owner name : String) (decl : PropertyDecl) : Prop :=
  ∃ d ∈ all, d.name = owner ∧ ∃ row, d.Climbs (parent? all) [] row ∧
    row.findSome? (·.declared? (Key.of name)) = some decl

theorem Property.writable_ofDecl_iff {classKeys enumerationKeys : List Key} {decl : PropertyDecl} :
    (ofDecl classKeys enumerationKeys decl).writable = true ↔
      Text.lower (Text.strip decl.access) ≠ "r" := by
  simp only [writable, ofDecl, Access.of]
  split
  · rename_i hread
    simp [hread]
  · rename_i hread
    simp [hread]

theorem ClassTable.exists_nearest {cs : List ClassDecl} {enumerations : List String}
    {t : ClassTable} {c : ClassInfo} {owner name : String} (ht : ofDecls cs enumerations = .ok t)
    (hc : t.named? owner = some c) (hp : c.property? name = some p) :
    ∃ decl, ClassDecl.Nearest cs owner name decl ∧
      p = .ofDecl (cs.flatMap (·.keys)) (enumerations.map Key.of) decl := by
  obtain ⟨roster, hroster, -, hclasses⟩ := exists_roster ht
  have howner : c.name = owner := by simpa using List.find?_some hc
  obtain ⟨d, hd, -, hmember⟩ := Outcome.exists_left_of_mem hclasses (List.mem_of_find?_eq_some hc)
  rw [ClassInfo.property?_ofMember hroster hmember, Option.map_eq_some_iff] at hp
  obtain ⟨decl, hdecl, rfl⟩ := hp
  have hnames := Roster.nodup_names hroster.apart
  exact ⟨decl, ⟨d, hd, (ClassInfo.name_ofMember hmember).1.symm.trans howner, _,
    ClassDecl.climbs_lineage hnames d, hdecl⟩, rfl⟩

/-! ## The script of a write -/

namespace Specifier

/-- The variables of a path and those of its value begin with different letters. -/
theorem apart_of_stems (hs : s.stem = pathStem) (hv : v.stem = writeParameter) : s.Apart v := by
  refine ⟨?_, fun d _ h => ?_, fun d _ h => ?_⟩
  · rw [hs, hv]
    decide
  · rw [hs, hv] at h
    have hhead := congrArg (fun t => t.toList.head?) h
    simp [pathStem, writeParameter] at hhead
  · rw [hs, hv] at h
    have hhead := congrArg (fun t => t.toList.head?) h
    simp [pathStem, writeParameter] at hhead

theorem isWord_pathStem : Script.IsWord pathStem := Script.isWord_of_all (by decide +kernel)

theorem isWord_writeParameter : Script.IsWord writeParameter :=
  Script.isWord_of_all (by decide +kernel)

/-- The scripts of specifiers that are pairwise apart run one after the other, and after them every
reference means what its path means alone. -/
theorem exists_run_of_apart {l : List Specifier} (hw : ∀ s ∈ l, Script.IsWord s.stem)
    (hapart : l.Pairwise Apart)
    (hphrases : ∀ s ∈ l, phrases s.steps = boundPhrases s.steps ++ readPhrases s.steps) :
    ∃ σ, Script.run? (l.flatMap (·.statements)) = some σ ∧
      ∀ s ∈ l, Script.evaluate σ s.reference = s.nested := by
  have hlines : l.flatMap (·.statements) = (l.flatMap (·.bindings)).map (·.line) := by
    rw [List.map_flatMap]
    rfl
  rw [hlines]
  exact ⟨_, Script.run?_lines (isWord_of_mem_flatMap hw),
    fun s hs => Call.evaluate_of_apart hw hapart hs (hphrases s hs)⟩

theorem assigned_statements (hw : Script.IsWord s.stem) :
    Script.assigned s.statements = s.names := by
  have hwords : ∀ b ∈ s.bindings, Script.IsWord b.name := by
    simpa using isWord_of_mem_flatMap (l := [s]) (by simpa using hw)
  rw [statements, Script.assigned_lines hwords, names_bindings]

/-- The script sets what the reference means to a value and reads it back (module doc). -/
structure Writes (r : ClassRegistry) (s : Specifier) (p : Property) (raw : String)
    (a : Call.Argument) (script : String) : Prop where
  value : propertyArgument r p raw = .ok a
  script : script = Script.ofLines (s.statements ++ a.statements ++
    [Script.assign s.reference a.literal, Script.answer s.reference])
  read : s.readScript = Script.ofLines (s.statements ++ [Script.answer s.reference])
  apart : (Script.assigned s.statements).Disjoint (Script.assigned a.statements)
  denotes : ∃ σ τ, Script.run? s.statements = some σ ∧
    Script.run? (s.statements ++ a.statements) = some τ ∧
    Script.evaluate σ s.reference = s.nested ∧ Script.evaluate τ s.reference = s.nested
  plain : p.kind ≠ .specifier → a.statements = []
  object : p.kind = .specifier → ∃ v τ, resolve r raw writeParameter = .ok v ∧
    a = ⟨v.statements, v.reference⟩ ∧ Script.run? (s.statements ++ a.statements) = some τ ∧
    Script.evaluate τ a.literal = v.nested

theorem writes_of_argument (hs : resolve r path pathStem = .ok s)
    (ha : propertyArgument r p raw = .ok a) :
    s.Writes r p raw a (Script.ofLines (s.statements ++ a.statements ++
      [Script.assign s.reference a.literal, Script.answer s.reference])) := by
  obtain ⟨t, -, -, -, -, hstem, hl⟩ := resolve_ok_iff.1 hs
  have hword : Script.IsWord s.stem := hstem ▸ isWord_pathStem
  obtain ⟨σ, hσ, hread⟩ := exists_run_of_apart (l := [s]) (by simpa using hword)
    (List.pairwise_singleton _ _) (by simpa using phrases_eq hl)
  rw [List.flatMap_singleton] at hσ
  have hread : Script.evaluate σ s.reference = s.nested := hread s List.mem_cons_self
  by_cases hk : p.kind = .specifier
  · obtain ⟨v, hv, rfl⟩ := (propertyArgument_specifier_ok_iff hk).1 ha
    obtain ⟨t', -, -, -, -, hstem', hl'⟩ := resolve_ok_iff.1 hv
    have hword' : Script.IsWord v.stem := hstem' ▸ isWord_writeParameter
    have hapart : s.Apart v := apart_of_stems hstem hstem'
    obtain ⟨τ, hτ, hboth⟩ := exists_run_of_apart (l := [s, v]) (by simp [hword, hword'])
      (List.pairwise_pair.2 hapart) (by simp [phrases_eq hl, phrases_eq hl'])
    have hτ : Script.run? (s.statements ++ v.statements) = some τ := by simpa using hτ
    refine ⟨ha, rfl, rfl, ?_, ⟨σ, τ, hσ, hτ, hread, hboth s (by simp)⟩, absurd hk,
      fun _ => ⟨v, τ, hv, rfl, hτ, hboth v (by simp)⟩⟩
    rw [assigned_statements hword, assigned_statements hword']
    exact (disjoint_names_iff s v).2 hapart
  · have hnone := propertyArgument_statements_eq_nil hk ha
    have hσ' : Script.run? (s.statements ++ a.statements) = some σ := by simpa [hnone] using hσ
    refine ⟨ha, rfl, rfl, ?_, ⟨σ, σ, hσ, hσ', hread, hread⟩, fun _ => hnone, (absurd · hk)⟩
    rw [hnone]
    exact List.disjoint_nil_right _

end Specifier

/-- **A write sets what a read answers with.** A property is written exactly when its nearest
declaration does not make it read-only and its kind takes the value. The script of the write is that
of the read with the bindings of the value and one assignment to the same reference put in before
the answer, and the reference means the same in both. Without a script nothing is run. -/
theorem write_reads_back {cs : List ClassDecl} {enumerations : List String}
    (hload : ClassRegistry.empty.load cs enumerations = .ok r)
    (hs : resolve r path pathStem = .ok s) (hp : s.property? = some p) (raw : String) :
    (∃ segment decl, (Path.segments path).getLast? = some segment ∧
      ClassDecl.Nearest cs s.target.name segment decl ∧
      p = .ofDecl (cs.flatMap (·.keys)) (enumerations.map Key.of) decl ∧
      ((∃ script, s.writeScript r p raw = .ok script) ↔
        Text.lower (Text.strip decl.access) ≠ "r" ∧
          ∃ a, Specifier.propertyArgument r p raw = .ok a)) ∧
    (∀ script, s.writeScript r p raw = .ok script → ∃ a, s.Writes r p raw a script) ∧
    ∀ commands execute,
      (∀ params, (Registries.handle ⟨r, commands⟩ execute ⟨.get, path, params⟩).scripts =
        [s.readScript]) ∧
      ∀ q : Request, q.path = path → q.method ≠ .get → q.command? = none →
        q.params.get? writeParameter = some raw →
        (Registries.handle ⟨r, commands⟩ execute q).scripts =
          (s.writeScript r p raw).toOption.toList := by
  refine ⟨?_, fun script hscript => ?_, fun commands execute => ⟨fun params => ?_, ?_⟩⟩
  · obtain ⟨t, segment, ht, hlast, hnamed, hproperty⟩ := Specifier.exists_segment hs hp
    obtain ⟨t', hdecls, rfl⟩ := ClassRegistry.load_ok_iff.1 hload
    obtain rfl : t' = t := Option.some.inj ht
    obtain ⟨decl, hnearest, rfl⟩ := ClassTable.exists_nearest hdecls hnamed hproperty
    refine ⟨segment, decl, hlast, hnearest, rfl, ?_⟩
    rw [Specifier.exists_writeScript_iff, Property.writable_ofDecl_iff]
  · obtain ⟨-, a, ha, rfl⟩ := Specifier.writeScript_eq_ok_iff.1 hscript
    exact ⟨a, Specifier.writes_of_argument hs ha⟩
  · have hproperty : s.isProperty = true := by simp [Specifier.isProperty, hp]
    rw [Registries.handle_scripts, Request.script_get hs hproperty]
    rfl
  · rintro q rfl hget hcommand hraw
    rw [Registries.handle_scripts, Request.script_write hcommand hs hp hget hraw]

/-- A dictionary in which the parent of a playlist can only be read, but that of a user playlist
also written. -/
def folders : List ClassDecl := [
  ⟨"application", none, none, [], ["playlist", "user playlist"]⟩,
  ⟨"playlist", none, none, [⟨"parent", "playlist", "r"⟩], []⟩,
  ⟨"user playlist", none, some "playlist", [⟨"Parent", "playlist", "rw"⟩], []⟩]

theorem write_reads_back_parent :
    ∃ r s p a, ClassRegistry.empty.load folders [] = .ok r ∧
      resolve r "/userPlaylists/1/parent" pathStem = .ok s ∧ s.property? = some p ∧
      s.Writes r p "/playlists/2" a ("set obj0 to it\nset obj1 to user playlist 1 of obj0\n" ++
        "set value0 to it\nset value1 to playlist 2 of value0\n" ++
        "set Parent of obj1 to value1\nreturn Parent of obj1") := by
  have hwritten : ((ClassRegistry.empty.load folders []).toOption.bind fun r =>
      (resolve r "/userPlaylists/1/parent" pathStem).toOption.bind fun s =>
        s.property?.bind fun p => (s.writeScript r p "/playlists/2").toOption) =
      some ("set obj0 to it\nset obj1 to user playlist 1 of obj0\n" ++
        "set value0 to it\nset value1 to playlist 2 of value0\n" ++
        "set Parent of obj1 to value1\nreturn Parent of obj1") := by decide +kernel
  obtain ⟨r, hr, hwritten⟩ := Option.bind_eq_some_iff.1 hwritten
  obtain ⟨s, hs, hwritten⟩ := Option.bind_eq_some_iff.1 hwritten
  obtain ⟨p, hp, hscript⟩ := Option.bind_eq_some_iff.1 hwritten
  have hr := Outcome.toOption_eq_some.1 hr
  have hs := Outcome.toOption_eq_some.1 hs
  obtain ⟨a, hwrites⟩ := (write_reads_back hr hs hp "/playlists/2").2.1 _
    (Outcome.toOption_eq_some.1 hscript)
  exact ⟨r, s, p, a, hr, hs, hp, hwrites⟩

end ScriptGateway
