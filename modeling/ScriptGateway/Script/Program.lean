import ScriptGateway.Script.Literal
import ScriptGateway.Text.Join

/-!
# Scripts

The lines a script is made of, and the block that addresses a script to an application.
-/

set_option autoImplicit false

namespace ScriptGateway.Script

/-- The assignment of an expression to a variable. -/
structure Binding where
  name : String
  expression : String
  deriving DecidableEq, Repr

/-- An assignment as a line of a script. -/
def assign (target value : String) : String := "set " ++ target ++ " to " ++ value

def Binding.line (b : Binding) : String := assign b.name b.expression

/-- The line that ends a script with a value. -/
def answer (expression : String) : String := "return " ++ expression

def ofLines (lines : List String) : String := Text.joinWith "\n" lines

/-- The script addressed to an application. -/
def tell (script application : String) : String :=
  "tell application " ++ textLiteral application ++ "\n" ++ script ++ "\nend tell"

end ScriptGateway.Script
