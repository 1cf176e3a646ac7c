import ScriptGateway.Text.Join
import ScriptGateway.Text.Numeral

/-!
# Request paths

The segments of a path, and the two special forms a segment may have: an index and a quoted name.
-/

set_option autoImplicit false

namespace ScriptGateway.Path

open Text

/-- The segments of a path. One slash in front and one at the end do not count; what stands between
two slashes is a segment even when it is empty. -/
def segments (path : String) : List String :=
  let inner := match path.toList with
    | '/' :: rest => rest
    | cs => cs
  match inner with
  | [] => []
  | cs =>
    let pieces := splitAt '/' cs
    (if pieces.getLast? = some [] then pieces.dropLast else pieces).map String.ofList

/-- The path that leads along the segments; there is none for no segments. -/
def along (segs : List String) : String :=
  if segs.isEmpty then "" else "/" ++ joinWith "/" segs

/-- The number a segment stands for, if it is a numeral. -/
def index? (segment : String) : Except TooLong (Option Int) :=
  match Numeral.ofChars? (dropFinalNewline segment.toList) with
  | none => .ok none
  | some n => n.value.map some

/-- What stands before the quote at the end of a text; a line feed after the quote is passed over. -/
def beforeQuote? (q : Char) (cs : List Char) : Option (List Char) :=
  if cs.getLast? = some q then some cs.dropLast
  else
    let line := dropFinalNewline cs
    if line.getLast? = some q then some line.dropLast else none

/-- The name inside the quotes, if the segment is quoted. -/
def quotedName? (segment : String) : Option String :=
  match segment.toList with
  | '"' :: rest => (beforeQuote? '"' rest).map String.ofList
  | '\'' :: rest => (beforeQuote? '\'' rest).map String.ofList
  | _ => none

end ScriptGateway.Path
