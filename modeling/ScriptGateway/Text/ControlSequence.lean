/-!
# Control sequences

The sequences of characters that steer a terminal: an escape and an opening bracket, then
parameters, then intermediate characters, then a final one. What is printed where there is no
terminal is shown without them.
-/

set_option autoImplicit false

namespace ScriptGateway.Text

def escape : Char := '\x1B'

def isParameter (c : Char) : Bool := '0' ≤ c && c ≤ '?'

def isIntermediate (c : Char) : Bool := ' ' ≤ c && c ≤ '/'

def isFinal (c : Char) : Bool := '@' ≤ c && c ≤ '~'

/-- How many characters the control sequence at the start of a text has; none if there is no such
sequence. -/
def sequenceLength : List Char → Nat
  | c :: '[' :: rest =>
    let parameters := rest.takeWhile isParameter
    let intermediates := (rest.drop parameters.length).takeWhile isIntermediate
    let inner := parameters.length + intermediates.length
    if c = escape && ((rest.drop inner).head?.map isFinal).getD false then inner + 3 else 0
  | _ => 0

/-- The text without its control sequences, where `owed` is how many characters at its start still
belong to one. -/
def dropSequences : (owed : Nat) → List Char → List Char
  | _, [] => []
  | owed + 1, _ :: rest => dropSequences owed rest
  | 0, c :: rest =>
    match sequenceLength (c :: rest) with
    | 0 => c :: dropSequences 0 rest
    | owed + 1 => dropSequences owed rest

/-- The text as it is shown where there is no terminal. -/
def shown (s : String) : String := String.ofList (dropSequences 0 s.toList)

end ScriptGateway.Text
