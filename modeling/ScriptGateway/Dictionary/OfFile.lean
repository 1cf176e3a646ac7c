import ScriptGateway.Dictionary.OfDocument

/-!
# Dictionaries in files

What a path leads to, and the dictionary read from there.
-/

set_option autoImplicit false

namespace ScriptGateway

/-- What keeps the file at a path from being read. -/
inductive Obstacle
  | missing
  | forbidden
  /-- A part of the path before the last is no directory. -/
  | notDirectory
  | directory
  | longName
  deriving DecidableEq, Repr

namespace Obstacle

/-- The number that the system has for it. -/
def number : Obstacle → Nat
  | missing => 2
  | forbidden => 13
  | notDirectory => 20
  | directory => 21
  | longName => 36

/-- The words that the system has for it. -/
def text : Obstacle → String
  | missing => "No such file or directory"
  | forbidden => "Permission denied"
  | notDirectory => "Not a directory"
  | directory => "Is a directory"
  | longName => "File name too long"

end Obstacle

/-- What is found at a path. -/
inductive Entry
  | blocked (o : Obstacle)
  | file (bytes : List UInt8)
  deriving Repr

/-- There is something at the path, even if it cannot be read. -/
def Entry.exists : Entry → Bool
  | blocked .directory | blocked .forbidden | file _ => true
  | blocked _ => false

def hasNull (path : String) : Bool := path.toList.contains '\x00'

/-- The dictionary in the file at a path. -/
def Dictionary.ofEntry (path : String) (entry : Entry) : Except Fault Dictionary :=
  if hasNull path then .error .nullInPath
  else match entry with
    | .blocked o =>
      .error (.document path (.unreadable
        ("[Errno " ++ toString o.number ++ "] " ++ o.text ++ ": " ++ Text.quoted path)))
    | .file bytes => Dictionary.ofBytes path bytes

end ScriptGateway
