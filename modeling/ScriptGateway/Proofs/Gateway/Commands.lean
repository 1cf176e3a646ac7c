import ScriptGateway.Proofs.Command.Table
import ScriptGateway.Proofs.Gateway.Readiness
import ScriptGateway.Proofs.Gateway.Requests
import ScriptGateway.Proofs.Path.Shapes
import ScriptGateway.Proofs.Specifier.Typing

/-!
# Commands at their addresses

A `POST` to a single segment of the shape of a command name calls the command of that key
(`Request.command?_address`). So every command of a loaded table is reached under each of its
spellings, whatever the classes beside it are called (`Barrier.handle_command`).
-/

set_option autoImplicit false

namespace ScriptGateway

/-! ## Addresses -/

/-- The paths that lead to a single segment. -/
def Path.addresses (segment : String) : List String := ["/" ++ segment, "/" ++ segment ++ "/"]

theorem Path.segments_address {segment path : String} (hne : segment ≠ "")
    (hslash : '/' ∉ segment.toList) (h : path ∈ addresses segment) : segments path = [segment] := by
  rcases List.mem_pair.1 h with rfl | rfl
  · have hone : ∀ s ∈ [segment], '/' ∉ s.toList := by simpa using hslash
    have hlast : [segment].getLast? ≠ some "" := by simpa using hne
    have hsegments := segments_along hone hlast
    exact hsegments
  · obtain ⟨c, cs, hcons⟩ := List.exists_cons_of_ne_nil
      (show segment.toList ++ ['/'] ≠ [] by simp)
    have hpath : ("/" ++ segment ++ "/").toList = '/' :: c :: cs := by simp [hcons]
    have hsplit : Text.splitAt '/' (c :: cs) = [segment.toList, []] := by
      rw [← hcons]
      exact Text.splitAt_append hslash []
    simp [segments, hpath, hsplit]

/-! ## Names -/

theorem Command.ne_empty_of_isName {token : String} (h : isName token = true) : token ≠ "" := by
  rintro rfl
  exact absurd h (by decide)

theorem Command.slash_notMem_of_isName {token : String} (h : isName token = true) :
    '/' ∉ token.toList := by
  rcases isName_iff.1 h with hname | ⟨front, heq, hname⟩
  · exact hname.notMem (by decide) (by decide)
  · have hfront := Path.Shape.NameText.notMem hname (d := '/') (by decide) (by decide)
    rw [heq]
    simpa using hfront

/-- A name is not taken for an option. -/
theorem Command.head?_ne_of_isName {token : String} (h : isName token = true) {c : Char}
    (hc : Text.isAsciiLetter c = false) : token.toList.head? ≠ some c := by
  have hfirst : ∃ d rest, token.toList = d :: rest ∧ d.isAlpha = true := by
    rcases isName_iff.1 h with ⟨d, rest, heq, hd, -⟩ | ⟨front, heq, d, rest, rfl, hd, -⟩
    · exact ⟨d, rest, heq, hd⟩
    · exact ⟨d, rest ++ ['\n'], heq, hd⟩
  obtain ⟨d, rest, heq, hd⟩ := hfirst
  intro hhead
  rw [heq] at hhead
  cases hhead
  rw [Text.isAsciiLetter_eq, hd] at hc
  cases hc

/-- Names with one key call one command. -/
theorem call_eq_of_key {classes : ClassRegistry} {commands : CommandRegistry} {name name' : String}
    {c : Command} (hkey : Key.of name = Key.of name') (hc : commands.lookup? name' = some c)
    (values : OrderedMap String String) :
    call classes commands name values = call classes commands name' values := by
  have hlookup : commands.lookup? name = commands.lookup? name' := by
    unfold CommandRegistry.lookup? CommandTable.lookup?
    rw [hkey]
  rw [call, call, hlookup, hc]

/-! ## Requests -/

namespace Request

variable {params : OrderedMap String String} {token path : String}

/-- A token of the shape of a command name is taken for one. -/
theorem command?_address (hname : Command.isName token = true) (h : path ∈ Path.addresses token) :
    command? ⟨.post, path, params⟩ = some token := by
  have hsegments := Path.segments_address (Command.ne_empty_of_isName hname)
    (Command.slash_notMem_of_isName hname) h
  simp [command?, hsegments, hname]

theorem script_call {classes : ClassRegistry} {commands : CommandRegistry}
    (hname : Command.isName token = true) (h : path ∈ Path.addresses token) :
    script classes commands ⟨.post, path, params⟩ =
      (call classes commands token params).map (·.script) := by
  simp only [script, command?_address hname h]

end Request

namespace Barrier

variable {ds : List CommandDecl} {classNames : List String} {k : CommandRegistry} {c : Command}
  {b : Barrier} {token path : String}

/-- **Every command is reached under each of its spellings**: a `POST` to a token of the shape of a
command name is a call, of the command that has the key of the token, whatever classes have been
loaded beside it. What is run and what is answered is what the call under the command's own name
leads to. -/
theorem handle_command (hload : CommandRegistry.empty.load ds classNames = .ok k)
    (hc : c ∈ k.list) (hname : Command.isName token = true) (hkey : Key.of token = Key.of c.name)
    (hended : b.phase = .ended none) (hcommands : b.registries.commands = k)
    (hpath : path ∈ Path.addresses token) (params : OrderedMap String String)
    (execute : Executor) :
    Command.isName c.name = true ∧ k.lookup? token = some c ∧
      Request.command? ⟨.post, path, params⟩ = some token ∧
      b.handle execute ⟨.post, path, params⟩ = some (.ofScript execute
        ((call b.registries.classes k c.name params).map (·.script))) := by
  obtain ⟨hown, hlookup⟩ := CommandRegistry.lookup?_name_of_mem hload hc
  have htoken : k.lookup? token = some c := by
    rw [← hlookup]
    unfold CommandRegistry.lookup? CommandTable.lookup?
    rw [hkey]
  refine ⟨hown, htoken, Request.command?_address hname hpath, ?_⟩
  rw [handle_eq_ofScript hended, Request.script_call hname hpath, hcommands,
    call_eq_of_key hkey hlookup]

/-- A barrier behind which a class and a command of one name have been loaded. -/
def namesakes : Barrier :=
  new.run [.populate "load",
    .delivered "load" (.ok ⟨shelf, [⟨"playlist", [⟨"value", "text", true⟩]⟩], []⟩)]

/-- The command is called, although there are playlists too. -/
theorem handle_command_playlist :
    ∃ c ∈ namesakes.registries.commands.list,
      CommandRegistry.empty.load [⟨"playlist", [⟨"value", "text", true⟩]⟩] (shelf.map (·.name)) =
        .ok namesakes.registries.commands ∧
      Command.isName "Playlist" = true ∧ Key.of "Playlist" = Key.of c.name ∧
      namesakes.phase = .ended none ∧ "/Playlist/" ∈ Path.addresses "Playlist" ∧
      (namesakes.registries.classes.lookup? "Playlist").isSome = true ∧
      namesakes.handle (fun _ => .ok ⟨"done\n", "", 0⟩)
          ⟨.post, "/Playlist/", .ofList [("value", "Road trip")]⟩ =
        some ⟨["playlist \"Road trip\""], .ok ⟨200, .text "done"⟩⟩ := by
  have hended : namesakes.phase = .ended none := isReady_iff.1 (by decide +kernel)
  have hload : Registries.empty.load ⟨shelf, [⟨"playlist", [⟨"value", "text", true⟩]⟩], []⟩ =
      (namesakes.registries, none) := Prod.ext rfl (Phase.ended.inj hended)
  have hcommands := (Registries.load_eq_none_iff.1 hload).2
  have hlist : ⟨"playlist", [⟨"value", .text, true⟩]⟩ ∈ namesakes.registries.commands.list := by
    decide +kernel
  have hname : Command.isName "Playlist" = true := by decide
  have hkey : Key.of "Playlist" = Key.of "playlist" := by decide +kernel
  have hpath : "/Playlist/" ∈ Path.addresses "Playlist" := by decide +kernel
  obtain ⟨-, -, -, hhandle⟩ := handle_command hcommands hlist hname hkey hended rfl hpath
    (.ofList [("value", "Road trip")]) fun _ => .ok ⟨"done\n", "", 0⟩
  have hscript : ((call namesakes.registries.classes namesakes.registries.commands "playlist"
      (.ofList [("value", "Road trip")])).map (·.script)).toOption =
        some "playlist \"Road trip\"" := by decide +kernel
  rw [Outcome.toOption_eq_some.1 hscript] at hhandle
  refine ⟨_, hlist, hcommands, hname, hkey, hended, hpath, by decide +kernel, hhandle.trans ?_⟩
  rfl

end Barrier

end ScriptGateway
