import ScriptGateway.Proofs.CommandLine.Definition
import ScriptGateway.Proofs.Gateway.Commands
import ScriptGateway.Proofs.Specifier.DeadEnds
import ScriptGateway.Proofs.Text.Shown

/-!
# Previews

What `compile` prints is what the service runs (`preview_agrees`). The two go different ways: the
service writes a script only for a property and answers refusals, the preview also names objects and
reports faults. They meet in the script that a path or a call has over one dictionary, which the
service hands to its executor (`Handled.ofScript`) and the preview prints (`Outcome.ofScript`).

Where there is no terminal, what is printed is shown without what steers one, so a script that holds
a control sequence is not printed as it is run (`preview_not_exact`).
-/

set_option autoImplicit false

namespace ScriptGateway

namespace CommandLine

variable {environment : Payload} {entry : Entry} {before after choices : List Choice}
  {target : String} {s : Settings} {d : Dictionary} {r : Registries}

/-! ## What is made of a script -/

/-- What a preview makes of a script or of what kept it from being written. -/
def Outcome.ofScript (application : String) : Except Problem String → Outcome
  | .ok script => .printed (Script.tell script application)
  | .error (.refused refusal) => .failed refusal.message
  | .error (.fault f) => .ofFault f

theorem run_previewLine (htarget : target.toList.head? ≠ some '-')
    (hs : Settings.ofSources environment
      (.object [("sdef_path", override (previewWords (before ++ after) target) "--sdef")]) = .ok s)
    (hd : s.dictionary entry = .ok d) (hload : Registries.empty.load d = (r, none)) :
    run environment entry (previewLine before target after) =
      .ofScript s.application (scriptFor r (previewWords (before ++ after) target) target) := by
  have hperform : run environment entry (previewLine before target after) =
      perform environment entry .compile (previewWords (before ++ after) target) := by
    rw [run, read_previewLine htarget]
    rfl
  have hcompile : perform environment entry .compile (previewWords (before ++ after) target) =
      compile environment entry (previewWords (before ++ after) target) target := by
    unfold perform
    rw [firstHindrance_eq_none hs hd]
    rfl
  rw [hperform, hcompile]
  simp only [compile, hs, preview, hd, hload]
  rcases scriptFor r (previewWords (before ++ after) target) target with (refusal | f) | script
  · rfl
  · rfl
  · rfl

/-! ## What is printed -/

/-- The text is printed: what is shown of it, which is exactly the text when it is bare and only
then. -/
structure Outcome.Prints (o : Outcome) (text : String) : Prop where
  shown : o = .printed text
  exact_iff : o = ⟨0, text ++ "\n", "", [], none⟩ ↔ Text.IsBare (text ++ "\n")

/-- The message is reported: what is shown of it, which is exactly the message when it is bare and
only then. -/
structure Outcome.Reports (o : Outcome) (message : String) : Prop where
  shown : o = .failed message
  exact_iff : o = ⟨1, "", "Error: " ++ message ++ "\n", [], none⟩ ↔
    Text.IsBare ("Error: " ++ message ++ "\n")

theorem Outcome.printed_prints (text : String) : (printed text).Prints text := by
  refine ⟨rfl, ?_⟩
  rw [← Text.shown_eq_self_iff, printed, Outcome.mk.injEq]
  simp

theorem Outcome.failed_reports (message : String) : (failed message).Reports message := by
  refine ⟨rfl, ?_⟩
  rw [← Text.shown_eq_self_iff, failed, Outcome.mk.injEq]
  simp

theorem scriptFor_path (hcommand : Choice.command ∉ choices) :
    scriptFor r (previewWords choices target) target =
      (require r.classes target pathStem).map (·.readScript) := by
  have hno : ¬(previewWords choices target).has "--command" = true :=
    mt (has_command_iff choices target).1 hcommand
  rw [scriptFor, if_neg hno]

theorem scriptFor_call (hcommand : Choice.command ∈ choices) (hnamed : ∀ c ∈ choices, c.IsNamed) :
    scriptFor r (previewWords choices target) target =
      (call r.classes r.commands target (.ofList (choices.filterMap Choice.pair?))).map
        (·.script) := by
  rw [scriptFor, if_pos ((has_command_iff choices target).2 hcommand),
    parameters_previewWords hnamed]

end CommandLine

/-! ## What the server makes of it -/

theorem Request.resolve_of_script_get {classes : ClassRegistry} {commands : CommandRegistry}
    {path script : String} {params : OrderedMap String String}
    (h : Request.script classes commands ⟨.get, path, params⟩ = .ok script) :
    ∃ s, resolve classes path pathStem = .ok s ∧ script = s.readScript := by
  obtain ⟨s, hs, hscript⟩ := Outcome.bind_eq_ok.1 h
  refine ⟨s, hs, ?_⟩
  split at hscript
  · cases hscript
  · exact (Except.ok.inj hscript).symm

theorem Request.script_get_of_error {classes : ClassRegistry} {commands : CommandRegistry}
    {path : String} {params : OrderedMap String String} {p : Problem}
    (h : resolve classes path pathStem = .error p) :
    Request.script classes commands ⟨.get, path, params⟩ = .error p :=
  Outcome.bind_eq_error.2 (.inl h)

namespace Handled

variable {execute : Executor} {x : Except Problem String}

theorem eq_of_mem_scripts {script : String} (h : script ∈ (ofScript execute x).scripts) :
    x = .ok script := by
  rcases x with (refusal | f) | script'
  · cases h
  · cases h
  · rw [List.mem_singleton.1 h]

/-- Only a refusal is answered with 400. -/
theorem exists_refusal {message : String}
    (h : (ofScript execute x).outcome = .ok ⟨400, .error message⟩) :
    ∃ refusal : Refusal, x = .error (.refused refusal) ∧ refusal.message = message := by
  rcases x with (refusal | f) | script
  · cases h
    exact ⟨refusal, rfl, rfl⟩
  · cases h
  · change Response.ofRun (execute script) = _ at h
    unfold Response.ofRun at h
    split at h
    · cases h
    · cases h
    · cases h

end Handled

namespace CommandLine

variable {environment : Payload} {entry : Entry} {before after : List Choice} {target : String}
  {s : Settings} {d : Dictionary} {b : Barrier}

/-- The preview of a path prints the script that is run to read it. -/
theorem preview_path
    (hs : Settings.ofSources environment
      (.object [("sdef_path", override (previewWords (before ++ after) target) "--sdef")]) = .ok s)
    (hd : s.dictionary entry = .ok d)
    (hload : Registries.empty.load d = (b.registries, none)) (hended : b.phase = .ended none)
    (hcommand : Choice.command ∉ before ++ after) (hslash : target.toList.head? = some '/')
    (execute : Executor) (params : OrderedMap String String) :
    ∃ h, b.handle execute ⟨.get, target, params⟩ = some h ∧
      (∀ script ∈ h.scripts, (run environment entry (previewLine before target after)).Prints
        (Script.tell script s.application)) ∧
      ∀ refusal, resolve b.registries.classes target pathStem = .error (.refused refusal) →
        h = ⟨[], .ok ⟨400, .error refusal.message⟩⟩ ∧
        (run environment entry (previewLine before target after)).Reports refusal.message := by
  have hhyphen : target.toList.head? ≠ some '-' := by simp [hslash]
  refine ⟨_, Barrier.handle_eq_ofScript hended execute _, fun script hscript => ?_,
    fun refusal hrefusal => ?_⟩
  · -- a property that is read is also an object that is named
    obtain ⟨sp, hsp, rfl⟩ := Request.resolve_of_script_get (Handled.eq_of_mem_scripts hscript)
    rw [run_previewLine hhyphen hs hd hload, scriptFor_path hcommand, require, hsp]
    exact Outcome.printed_prints _
  · obtain ⟨u, rfl⟩ := resolve_eq_refused hrefusal
    rw [Request.script_get_of_error hrefusal, run_previewLine hhyphen hs hd hload,
      scriptFor_path hcommand, require, hrefusal]
    exact ⟨rfl, Outcome.failed_reports u.message⟩

/-- The preview of a call prints the script that is run for it. -/
theorem preview_call
    (hs : Settings.ofSources environment
      (.object [("sdef_path", override (previewWords (before ++ after) target) "--sdef")]) = .ok s)
    (hd : s.dictionary entry = .ok d)
    (hload : Registries.empty.load d = (b.registries, none)) (hended : b.phase = .ended none)
    (hcommand : Choice.command ∈ before ++ after) (hnamed : ∀ c ∈ before ++ after, c.IsNamed)
    (hname : Command.isName target = true) (execute : Executor) :
    ∃ h, b.handle execute
        ⟨.post, "/" ++ target, .ofList ((before ++ after).filterMap Choice.pair?)⟩ = some h ∧
      (∀ script ∈ h.scripts, (run environment entry (previewLine before target after)).Prints
        (Script.tell script s.application)) ∧
      ∀ message, h.outcome = .ok ⟨400, .error message⟩ →
        (run environment entry (previewLine before target after)).Reports message := by
  have hrun : run environment entry (previewLine before target after) =
      .ofScript s.application (Request.script b.registries.classes b.registries.commands
        ⟨.post, "/" ++ target, .ofList ((before ++ after).filterMap Choice.pair?)⟩) := by
    rw [run_previewLine (Command.head?_ne_of_isName hname rfl) hs hd hload,
      scriptFor_call hcommand hnamed, Request.script_call hname List.mem_cons_self]
  refine ⟨_, Barrier.handle_eq_ofScript hended execute _, fun script hscript => ?_,
    fun message hmessage => ?_⟩
  · rw [hrun, Handled.eq_of_mem_scripts hscript]
    exact Outcome.printed_prints _
  · obtain ⟨refusal, hx, rfl⟩ := Handled.exists_refusal hmessage
    rw [hrun, hx]
    exact Outcome.failed_reports refusal.message

/-- **A preview shows what the server runs**: over one dictionary, the preview of a path prints the
script that is run when the path is read, and reports what the server answers where the path leads
nowhere; the preview of a call prints the script that is run for a `POST` of it, and reports why
there is none. What is printed is exactly that where there is nothing in it that steers a
terminal. -/
theorem preview_agrees
    (hs : Settings.ofSources environment
      (.object [("sdef_path", override (previewWords (before ++ after) target) "--sdef")]) = .ok s)
    (hd : s.dictionary entry = .ok d)
    (hload : Registries.empty.load d = (b.registries, none)) (hended : b.phase = .ended none)
    (execute : Executor) :
    (Choice.command ∉ before ++ after → target.toList.head? = some '/' →
      ∀ params, ∃ h, b.handle execute ⟨.get, target, params⟩ = some h ∧
        (∀ script ∈ h.scripts, (run environment entry (previewLine before target after)).Prints
          (Script.tell script s.application)) ∧
        ∀ refusal, resolve b.registries.classes target pathStem = .error (.refused refusal) →
          h = ⟨[], .ok ⟨400, .error refusal.message⟩⟩ ∧
          (run environment entry (previewLine before target after)).Reports refusal.message) ∧
    (Choice.command ∈ before ++ after → (∀ c ∈ before ++ after, c.IsNamed) →
      Command.isName target = true →
      ∃ h, b.handle execute
          ⟨.post, "/" ++ target, .ofList ((before ++ after).filterMap Choice.pair?)⟩ = some h ∧
        (∀ script ∈ h.scripts, (run environment entry (previewLine before target after)).Prints
          (Script.tell script s.application)) ∧
        ∀ message, h.outcome = .ok ⟨400, .error message⟩ →
          (run environment entry (previewLine before target after)).Reports message) :=
  ⟨fun hcommand hslash => preview_path hs hd hload hended hcommand hslash execute,
    fun hcommand hnamed hname => preview_call hs hd hload hended hcommand hnamed hname execute⟩

end CommandLine

/-! ## A player -/

namespace CommandLine

namespace Player

/-- A scripting definition of a player with playlists, in pieces. -/
def definition : List String :=
  ["<?xml version=\"1.0\" encoding=\"latin1\"?>", "<dictionary><suite>",
    "<class name=\"application\">", "<element type=\"playlist\"/>", "</class>",
    "<class name=\"playlist\">", "<property name=\"name\"/>", "</class>",
    "<command name=\"play\">", "<parameter name=\"by\" type=\"integer\"/>", "</command>",
    "</suite></dictionary>"]

def file : Entry := .file ((definition.flatMap String.toList).map fun c => UInt8.ofNat c.toNat)

def dictionary : Dictionary where
  classes := [⟨"application", none, none, [], ["playlist"]⟩,
    ⟨"playlist", none, none, [⟨"name", "text", "rw"⟩], []⟩]
  commands := [⟨"play", [⟨"by", "integer", false⟩]⟩]
  enumerations := []

def environment : Payload := .object [("NTUNES_APPLICATION", .text "Music")]

def settings : Settings :=
  { Settings.default with application := "Music", definition := some "player.sdef" }

def barrier : Barrier := Barrier.new.run [.populate "load", .delivered "load" (.ok dictionary)]

/-- An engine that answers nothing. -/
def silent : Executor := fun _ => .ok ⟨"", "", 0⟩

theorem settings_ofSources (choices : List Choice) (target : String)
    (h : (previewWords choices target).last? "--sdef" = some "player.sdef") :
    Settings.ofSources environment (.object [("sdef_path",
      override (previewWords choices target) "--sdef")]) = .ok settings := by
  rw [override, h]
  exact Outcome.toOption_eq_some.1 (by decide +kernel)

theorem settings_dictionary : settings.dictionary file = .ok dictionary :=
  Outcome.toOption_eq_some.1 (by decide +kernel)

theorem barrier_ended : barrier.phase = .ended none := Barrier.isReady_iff.1 (by decide +kernel)

theorem dictionary_load : Registries.empty.load dictionary = (barrier.registries, none) :=
  Prod.ext rfl (Phase.ended.inj barrier_ended)

theorem scripts_of_handle {q : Request} {h : Handled} {scripts : List String}
    (hh : barrier.handle silent q = some h)
    (hscripts : (barrier.handle silent q).map Handled.scripts = some scripts) :
    h.scripts = scripts := by
  rw [hh] at hscripts
  exact Option.some.inj hscripts

end Player

theorem preview_agrees_player :
    Settings.ofSources Player.environment (.object [("sdef_path",
        override (previewWords [.definition "player.sdef"] "/playlists/red/name") "--sdef")]) =
      .ok Player.settings ∧
    Player.settings.dictionary Player.file = .ok Player.dictionary ∧
    Registries.empty.load Player.dictionary = (Player.barrier.registries, none) ∧
    Player.barrier.phase = .ended none ∧
    (run Player.environment Player.file
        (previewLine [.definition "player.sdef"] "/playlists/red/name" [])).Prints
      (Script.tell "set obj0 to it\nset obj1 to playlist \"red\" of obj0\nreturn name of obj1"
        "Music") ∧
    (run Player.environment Player.file (previewLine [.definition "player.sdef", .command] "play"
        [.parameter "by" (some "3")])).Prints (Script.tell "play by 3" "Music") := by
  have hpath := Player.settings_ofSources ([.definition "player.sdef"] ++ [])
    "/playlists/red/name" rfl
  have hcall := Player.settings_ofSources ([.definition "player.sdef", .command] ++
    [.parameter "by" (some "3")]) "play" rfl
  refine ⟨hpath, Player.settings_dictionary, Player.dictionary_load, Player.barrier_ended, ?_, ?_⟩
  · obtain ⟨h, hh, hprints, -⟩ := (preview_agrees hpath Player.settings_dictionary
      Player.dictionary_load Player.barrier_ended Player.silent).1 (by decide) (by decide) .empty
    have hscripts : h.scripts =
        ["set obj0 to it\nset obj1 to playlist \"red\" of obj0\nreturn name of obj1"] :=
      Player.scripts_of_handle hh (by decide +kernel)
    exact hprints _ (hscripts ▸ List.mem_cons_self)
  · have hnamed : ∀ c ∈ ([.definition "player.sdef", .command] ++
        [.parameter "by" (some "3")] : List Choice), c.IsNamed := by
      simp [Choice.IsNamed]
    obtain ⟨h, hh, hprints, -⟩ := (preview_agrees hcall Player.settings_dictionary
      Player.dictionary_load Player.barrier_ended Player.silent).2 (by decide) hnamed (by decide)
    have hscripts : h.scripts = ["play by 3"] := Player.scripts_of_handle hh (by decide +kernel)
    exact hprints _ (hscripts ▸ List.mem_cons_self)

/-- A name that steers a terminal is part of the script that is run, but not of what is printed. -/
theorem preview_not_exact :
    ∃ h script, Player.barrier.handle Player.silent
        ⟨.get, "/playlists/\x1b[31mred\x1b[0m/name", .empty⟩ = some h ∧ h.scripts = [script] ∧
      run Player.environment Player.file (previewLine [.definition "player.sdef"]
          "/playlists/\x1b[31mred\x1b[0m/name" []) ≠
        ⟨0, Script.tell script "Music" ++ "\n", "", [], none⟩ := by
  have hpath := Player.settings_ofSources ([.definition "player.sdef"] ++ [])
    "/playlists/\x1b[31mred\x1b[0m/name" rfl
  obtain ⟨h, hh, hprints, -⟩ := preview_path hpath Player.settings_dictionary
    Player.dictionary_load Player.barrier_ended (by decide) (by decide) Player.silent .empty
  have hscripts : h.scripts =
    ["set obj0 to it\nset obj1 to playlist \"\x1b[31mred\x1b[0m\" of obj0\nreturn name of obj1"] :=
    Player.scripts_of_handle hh (by decide +kernel)
  refine ⟨h, _, hh, hscripts, fun hexact => ?_⟩
  have hbare := (hprints _ (hscripts ▸ List.mem_cons_self)).exact_iff.1 hexact
  -- the escape comes with the name and is followed by the rest of its sequence
  have hsequence := hbare
    "\x1b[31mred\x1b[0m\" of obj0\nreturn name of obj1\nend tell\n".toList
    ⟨"tell application \"Music\"\nset obj0 to it\nset obj1 to playlist \"".toList,
      by decide +kernel⟩
  exact absurd hsequence (by decide +kernel)

end CommandLine

end ScriptGateway
