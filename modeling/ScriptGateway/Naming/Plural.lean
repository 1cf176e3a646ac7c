import ScriptGateway.Text.Digit
import ScriptGateway.Text.Lower

/-!
# English plurals

The plural of a class name that declares none. The rules look at the end of the name; the first one
that fits is applied. What a rule keeps is copied from the name, what it adds is written in small
letters.
-/

set_option autoImplicit false

namespace ScriptGateway.Naming

open Text

/-- One place of an ending. -/
inductive Place
  /-- This letter, whatever its case. -/
  | letter (c : Char)
  /-- This character and no other. -/
  | exactly (c : Char)
  /-- This letter of ASCII in either case. -/
  | plain (c : Char)
  /-- One of these letters, whatever its case. -/
  | oneOf (cs : List Char)
  /-- Anything but these letters. -/
  | noneOf (cs : List Char)
  deriving DecidableEq, Repr

/-- Equality of letters whatever their case. The dotted and the dotless I count as an I, and the
long s as an s. -/
def sameLetter (small c : Char) : Bool :=
  c = small || (c.toNat < 0x80 && c.toLower = small)
    || (small = 'i' && (c = 'İ' || c = 'ı')) || (small = 's' && c = 'ſ')

def Place.admits : Place → Char → Bool
  | letter l, c => sameLetter l c
  | exactly d, c => c = d
  | plain l, c => c = l || (isAsciiUpper c && c.toLower = l)
  | oneOf ls, c => ls.any (sameLetter · c)
  | noneOf ls, c => !ls.any (sameLetter · c)

/-- How names with a certain ending form their plural: the first `keep` characters of the ending
stay and `add` follows them. -/
structure PluralRule where
  ending : List Place
  keep : Nat
  add : String
  /-- The ending has to be the whole name. -/
  whole : Bool := false
  deriving Repr

private def letters (s : String) : List Place := s.toList.map .letter

private def plainLetters (s : String) : List Place := s.toList.map .plain

private def rule (ending : String) (keep : Nat) (add : String) : PluralRule :=
  ⟨letters ending, keep, add, false⟩

private def wholeRule (name : String) (keep : Nat) (add : String) : PluralRule :=
  ⟨letters name, keep, add, true⟩

/-- Endings in `ine` and `ow` after a letter whose case is kept. -/
private def kineRules : List PluralRule := [
  ⟨.exactly 'k' :: plainLetters "ine", 0, "kine", false⟩,
  ⟨.exactly 'K' :: plainLetters "ine", 0, "Kine", false⟩,
  ⟨.exactly 'c' :: plainLetters "ow", 0, "kine", false⟩,
  ⟨.exactly 'C' :: plainLetters "ow", 0, "Kine", false⟩]

/-- All rules but the last, in the order in which they are tried. -/
def pluralRules : List PluralRule := [
  rule "zombies" 1 "ombies", rule "zombie" 1 "ombies"] ++ kineRules ++ [
  rule "moves" 1 "oves", rule "move" 1 "oves", rule "sexes" 1 "exes", rule "sex" 1 "exes",
  rule "children" 1 "hildren", rule "child" 1 "hildren", rule "humans" 1 "umans",
  rule "human" 1 "umans", rule "men" 1 "en", rule "man" 1 "en", rule "people" 1 "eople",
  rule "person" 1 "eople", rule "quiz" 4 "zes", wholeRule "oxen" 4 "", wholeRule "ox" 2 "en",
  ⟨.oneOf ['m', 'l'] :: letters "ice", 1, "ice", false⟩,
  ⟨.oneOf ['m', 'l'] :: letters "ouse", 1, "ice", false⟩,
  rule "passersby" 6 "sby", rule "passerby" 6 "sby",
  rule "matrix" 4 "ices", rule "matrex" 4 "ices", rule "vertix" 4 "ices", rule "vertex" 4 "ices",
  rule "indix" 3 "ices", rule "index" 3 "ices",
  rule "x" 1 "es", rule "ch" 2 "es", rule "ss" 2 "es", rule "sh" 2 "es",
  ⟨[.noneOf ['a', 'e', 'i', 'o', 'u', 'y'], .letter 'y'], 1, "ies", false⟩, rule "quy" 2 "ies",
  rule "hive" 4 "s", ⟨[.oneOf ['l', 'r'], .letter 'f'], 1, "ves", false⟩,
  ⟨[.noneOf ['f'], .letter 'f', .letter 'e'], 1, "ves", false⟩, rule "sis" 0 "ses",
  ⟨[.oneOf ['t', 'i'], .letter 'a'], 1, "a", false⟩,
  ⟨[.oneOf ['t', 'i'], .letter 'u', .letter 'm'], 1, "a", false⟩,
  rule "buffalo" 6 "oes", rule "potato" 5 "oes", rule "tomato" 5 "oes", rule "bus" 2 "ses",
  rule "alias" 5 "es", rule "status" 6 "es", rule "octopi" 5 "i", rule "viri" 3 "i",
  rule "octopus" 5 "i", rule "virus" 3 "i", wholeRule "axis" 2 "es", wholeRule "testis" 4 "es",
  rule "s" 0 "s"]

/-- Names that are their own plural. -/
def unchangingNames : List String :=
  ["equipment", "fish", "information", "jeans", "money", "rice", "series", "sheep", "species"]

/-- The places admit the characters one by one. -/
def admitsAll : List Place → List Char → Bool
  | [], [] => true
  | p :: ps, c :: cs => p.admits c && admitsAll ps cs
  | _, _ => false

/-- The plural by one rule, if the rule fits. -/
def PluralRule.inflect? (r : PluralRule) (cs : List Char) : Option (List Char) :=
  let start := cs.length - r.ending.length
  let tail := cs.drop start
  if admitsAll r.ending tail && (!r.whole || start = 0) then
    some (cs.take start ++ tail.take r.keep ++ r.add.toList)
  else none

/-- The plural of a name. A line feed at the very end is not part of the last word: the rules look
at what stands before it and leave it in place, but where none of them fits an `s` is added both
before and after it. -/
def plural (name : String) : String :=
  let cs := name.toList
  if cs.isEmpty || unchangingNames.contains (Text.lower name) then name
  else
    let ended := cs.getLast? = some '\n'
    let word := if ended then cs.dropLast else cs
    match pluralRules.findSome? (·.inflect? word) with
    | some p => String.ofList (if ended then p ++ ['\n'] else p)
    | none => String.ofList (word ++ ['s'] ++ (if ended then ['\n', 's'] else []))

end ScriptGateway.Naming
