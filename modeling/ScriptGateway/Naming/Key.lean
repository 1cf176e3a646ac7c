import ScriptGateway.Text.Blank
import ScriptGateway.Text.Digit
import ScriptGateway.Text.Lower

/-!
# Lookup keys

A dictionary names things by lower-case phrases ("current track"); a request may spell the same
name in camel case, with underscores or with hyphens. All spellings share one key: the words in
lower case, joined by single spaces.
-/

set_option autoImplicit false

namespace ScriptGateway

/-- A name with its spelling taken away. -/
structure Key where
  text : String
  deriving DecidableEq, Repr

namespace Naming

open Text

/-- Parts a run of capitals from the capitalised word after it: `URLTrack` into `URL_Track`. -/
def partCapitals : List Char → List Char
  | a :: b :: c :: rest =>
    if isAsciiUpper a && isAsciiUpper b && isAsciiLower c then a :: '_' :: partCapitals (b :: c :: rest)
    else a :: partCapitals (b :: c :: rest)
  | cs => cs

/-- Parts a small letter or digit from the capital after it: `fileTrack` into `file_Track`. -/
def partHumps : List Char → List Char
  | a :: b :: rest =>
    if (isAsciiLower a || isDigit a) && isAsciiUpper b then a :: '_' :: partHumps (b :: rest)
    else a :: partHumps (b :: rest)
  | cs => cs

/-- A hyphen parts words as an underscore does. -/
def unhyphen (c : Char) : Char := if c = '-' then '_' else c

def isSeparator (c : Char) : Bool := isBlank c || c = '_'

/-- Writes each run of separators as one space; `within` tells that a run has begun. -/
def joinRuns : (within : Bool) → List Char → List Char
  | _, [] => []
  | within, c :: rest =>
    if isSeparator c then
      if within then joinRuns true rest else ' ' :: joinRuns true rest
    else c :: joinRuns false rest

/-- The phrase behind a spelling, as a row of characters. -/
def phrase (cs : List Char) : List Char :=
  let words := partHumps (partCapitals (trimWhile isBlank cs))
  trimWhile isBlank (joinRuns false (lowerAfter [] (words.map unhyphen)))

end Naming

/-- The key that all spellings of a name share. -/
def Key.of (name : String) : Key := ⟨String.ofList (Naming.phrase name.toList)⟩

end ScriptGateway
