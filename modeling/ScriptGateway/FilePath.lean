import ScriptGateway.Text.Join

/-!
# File paths

The plain form of a file path.
-/

set_option autoImplicit false

namespace ScriptGateway.FilePath

/-- The slashes at the front of a plain path: none, one, or two if the path has exactly two. -/
def rootOf (cs : List Char) : String :=
  match (cs.takeWhile (· = '/')).length with
  | 0 => ""
  | 2 => "//"
  | _ => "/"

/-- The path without repeated slashes, without parts that stay where they are, and without a slash
at its end. An empty path is where one stands. -/
def plain (path : String) : String :=
  let cs := path.toList
  let parts := ((Text.splitAt '/' cs).map String.ofList).filter fun p => p ≠ "" && p ≠ "."
  let whole := rootOf cs ++ Text.joinWith "/" parts
  if whole.isEmpty then "." else whole

end ScriptGateway.FilePath
