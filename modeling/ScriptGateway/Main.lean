import ScriptGateway.CommandLine.Run
import ScriptGateway.Payload.Json

/-!
# The program

The outermost layer: reads the environment and the file that the command line names, and prints what
the command line comes to. A service that was started is announced by its address.
-/

set_option autoImplicit false

namespace ScriptGateway

/-- What stands at a path. -/
def Entry.find (path : String) : IO Entry := do
  try
    return .file (← IO.FS.readBinFile path).data.toList
  catch e =>
    return .blocked (match e with
      | .permissionDenied .. => .forbidden
      | .inappropriateType _ number _ => if number = 21 then .directory else .notDirectory
      | .invalidArgument .. => .longName
      | _ => .missing)

/-- The variables of the environment that settings may stand in. -/
def environment : IO Payload := do
  let given ← Settings.variableNames.filterMapM fun name => do
    return (← IO.getEnv name).map fun v => (name, Payload.text v)
  return .object given

end ScriptGateway

open ScriptGateway in
def main (words : List String) : IO UInt32 := do
  let entry ← match CommandLine.definition? words with
    | some path => Entry.find path
    | none => pure (.blocked .missing)
  let o := CommandLine.run (← environment) entry words
  IO.print o.stdout
  IO.eprint o.stderr
  for s in o.served do
    IO.println ("serving " ++ s.application ++ " at http://" ++ s.host ++ ":" ++ toString s.port)
  match o.escaped with
  | some f => IO.eprintln f.message
  | none => pure ()
  return o.status.toUInt32
