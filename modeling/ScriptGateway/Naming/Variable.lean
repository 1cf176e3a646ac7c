import ScriptGateway.Naming.Key

/-!
# Variable names

The stem of the variables that a script binds for one parameter: the words of the parameter's name
in ASCII letters and digits, joined by single underscores.
-/

set_option autoImplicit false

namespace ScriptGateway.Naming

open Text

/-- Writes each run of characters other than ASCII letters and digits as one underscore. -/
def underscoreRuns : (within : Bool) → List Char → List Char
  | _, [] => []
  | within, c :: rest =>
    if isAsciiAlnum c then c :: underscoreRuns false rest
    else if within then underscoreRuns true rest
    else '_' :: underscoreRuns true rest

/-- A stem for variables that starts with a letter: a name that leaves nothing gives `obj`, and one
that leaves a digit in front has `p` put before it. -/
def variableStem (name : String) : String :=
  match trimWhile (· = '_') (underscoreRuns false (phrase name.toList)) with
  | [] => "obj"
  | c :: rest => String.ofList (if isAsciiDigit c then 'p' :: c :: rest else c :: rest)

end ScriptGateway.Naming
