import ScriptGateway.Dictionary.Basic

/-!
# The bundled dictionary

The scripting terms of the application that is addressed by default.
-/

set_option autoImplicit false

namespace ScriptGateway.Bundled

private def ro (name type : String) : PropertyDecl := ⟨name, type, "r"⟩

private def rw (name type : String) : PropertyDecl := ⟨name, type, "rw"⟩

private def direct (type : String) (optional : Bool) : ParameterDecl :=
  ⟨directName, type, optional⟩

private def needs (name type : String) : ParameterDecl := ⟨name, type, false⟩

private def takes (name type : String) : ParameterDecl := ⟨name, type, true⟩

def classes : List ClassDecl := [
  ⟨"item", none, none, [
    ro "class" "type", ro "container" "specifier", ro "id" "integer", ro "index" "integer",
    rw "name" "text", ro "persistent ID" "text", rw "properties" "record"],
    []⟩,
  ⟨"application", none, none, [
    ro "current playlist" "playlist", ro "current stream title" "text",
    ro "current track" "track", rw "frontmost" "boolean", rw "mute" "boolean", ro "name" "text",
    rw "player position" "real", ro "player state" "ePlS", ro "selection" "specifier",
    rw "sound volume" "integer", ro "version" "text"],
    [
    "browser window", "playlist", "source", "window"]⟩,
  ⟨"artwork", none, some "item", [
    rw "data" "picture", rw "description" "text", ro "downloaded" "boolean", ro "format" "type"],
    []⟩,
  ⟨"playlist", none, some "item", [
    ro "duration" "integer", rw "shuffle" "boolean", ro "size" "double integer",
    rw "song repeat" "eRpt", ro "special kind" "eSpK", ro "time" "text", ro "visible" "boolean"],
    [
    "track"]⟩,
  ⟨"library playlist", none, some "playlist", [],
    [
    "file track", "URL track", "shared track"]⟩,
  ⟨"user playlist", none, some "playlist", [
    rw "shared" "boolean", ro "smart" "boolean"],
    [
    "file track", "URL track", "shared track"]⟩,
  ⟨"folder playlist", none, some "user playlist", [],
    [
    "user playlist"]⟩,
  ⟨"source", none, some "item", [
    ro "capacity" "double integer", ro "free space" "double integer", ro "kind" "eSrc"],
    [
    "audio CD playlist", "library playlist", "playlist", "radio tuner playlist", "user playlist"]⟩,
  ⟨"audio CD playlist", none, some "playlist", [
    rw "artist" "text", rw "compilation" "boolean", rw "year" "integer"],
    [
    "audio CD track"]⟩,
  ⟨"radio tuner playlist", none, some "playlist", [],
    [
    "URL track"]⟩,
  ⟨"track", none, some "item", [
    rw "album" "text", rw "album artist" "text", rw "artist" "text", ro "bit rate" "integer",
    rw "comment" "text", rw "compilation" "boolean", rw "composer" "text", ro "duration" "real",
    rw "enabled" "boolean", rw "genre" "text", rw "played count" "integer", rw "rating" "integer",
    ro "time" "text", rw "track number" "integer", rw "year" "integer"],
    [
    "artwork"]⟩,
  ⟨"audio CD track", none, some "track", [
    ro "location" "file"],
    []⟩,
  ⟨"file track", none, some "track", [
    rw "location" "file"],
    []⟩,
  ⟨"shared track", none, some "track", [],
    []⟩,
  ⟨"URL track", none, some "track", [
    rw "address" "text"],
    []⟩,
  ⟨"window", none, some "item", [
    rw "bounds" "rectangle", ro "closeable" "boolean", rw "minimized" "boolean",
    rw "visible" "boolean"],
    []⟩,
  ⟨"browser window", none, some "window", [
    ro "selection" "specifier", rw "view" "playlist"],
    []⟩]

def commands : List CommandDecl := [
  ⟨"close", [direct "specifier" false]⟩,
  ⟨"count", [direct "specifier" false, takes "each" "type"]⟩,
  ⟨"delete", [direct "specifier" false]⟩,
  ⟨"duplicate", [direct "specifier" true, takes "track" "track", takes "to" "location specifier"]⟩,
  ⟨"exists", [direct "specifier" false]⟩,
  ⟨"make", [
    needs "new" "type", takes "at" "location specifier", takes "with properties" "record"]⟩,
  ⟨"move", [direct "specifier" false, needs "to" "location specifier"]⟩,
  ⟨"run", []⟩,
  ⟨"quit", []⟩,
  ⟨"back track", []⟩,
  ⟨"fast forward", []⟩,
  ⟨"next track", []⟩,
  ⟨"pause", []⟩,
  ⟨"play", [direct "specifier" true, takes "once" "boolean"]⟩,
  ⟨"playpause", []⟩,
  ⟨"previous track", []⟩,
  ⟨"resume", []⟩,
  ⟨"rewind", []⟩,
  ⟨"stop", []⟩,
  ⟨"reveal", [direct "specifier" false]⟩,
  ⟨"search", [direct "playlist" false, needs "for" "text", takes "only" "text"]⟩,
  ⟨"open location", [direct "text" true]⟩]

def enumerations : List String := ["ePlS", "eRpt", "eSrc", "eSpK"]

end ScriptGateway.Bundled

namespace ScriptGateway

def Dictionary.bundled : Dictionary := ⟨Bundled.classes, Bundled.commands, Bundled.enumerations⟩

end ScriptGateway
