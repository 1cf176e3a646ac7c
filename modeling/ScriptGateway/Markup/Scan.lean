import ScriptGateway.Markup.NameTable
import ScriptGateway.Text.Digit

/-!
# Scanning XML

The small parts that all productions of XML share: characters, blanks, names, quoted literals and
references. A scanner returns what it found and the rest of the text, or `none` where the text is
not well-formed. Line ends have been made line feeds before any scanning.
-/

set_option autoImplicit false

namespace ScriptGateway.Markup

open Text

/-- A character that a document may contain. -/
def isXmlChar (c : Char) : Bool :=
  c = '\t' || c = '\n' || c = '\r' || (0x20 ≤ c.toNat && c.toNat ≠ 0xFFFE && c.toNat ≠ 0xFFFF)

def isXmlSpace (c : Char) : Bool := c = ' ' || c = '\t' || c = '\n' || c = '\r'

/-- Makes every line end one line feed. -/
def normalizeLines : List Char → List Char
  | [] => []
  | '\r' :: '\n' :: rest => '\n' :: normalizeLines rest
  | c :: rest => (if c = '\r' then '\n' else c) :: normalizeLines rest

def skipBlanks (cs : List Char) : List Char := cs.dropWhile isXmlSpace

/-- Skips blanks, of which there has to be one at least. -/
def someBlanks? : List Char → Option (List Char)
  | c :: rest => if isXmlSpace c then some (skipBlanks rest) else none
  | [] => none

/-- Removes a word from the front. -/
def dropWord? (word : String) (cs : List Char) : Option (List Char) :=
  if word.toList.isPrefixOf cs then some (cs.drop word.length) else none

def startsWith (word : String) (cs : List Char) : Bool := word.toList.isPrefixOf cs

/-- What stands between two quotes of the same kind. -/
def readQuoted? : List Char → Option (List Char × List Char)
  | q :: rest =>
    if q = '"' || q = '\'' then
      match rest.dropWhile (· ≠ q) with
      | _ :: after => some (rest.takeWhile (· ≠ q), after)
      | [] => none
    else none
  | [] => none

/-- What comes before the first occurrence of a word, and what comes after it. -/
def splitAtWord? (word : String) : List Char → Option (List Char × List Char)
  | [] => none
  | c :: rest =>
    if startsWith word (c :: rest) then some ([], (c :: rest).drop word.length)
    else (splitAtWord? word rest).map fun (before, after) => (c :: before, after)

/-- Skips everything up to a word and the word itself. -/
def skipPast? (word : String) (cs : List Char) : Option (List Char) := (splitAtWord? word cs).map (·.2)

/-- Skips a comment, of which the opening has been read. Two hyphens end it. -/
def skipComment? (cs : List Char) : Option (List Char) :=
  match skipPast? "--" cs with
  | some ('>' :: rest) => some rest
  | _ => none

/-! ## Names -/

/-- A name as elements and attributes have them, in two parts if there is a colon. -/
structure QName where
  space? : Option String
  base : String
  deriving DecidableEq, Repr

def QName.text (n : QName) : String :=
  match n.space? with
  | some s => s ++ ":" ++ n.base
  | none => n.base

/-- The letters that names may have in a document besides those that they may have in any. -/
class NameLetters where
  extra : List Char

abbrev NameLetters.plain : NameLetters := ⟨[]⟩

/-- In documents of sixteen-bit units and of Latin 1, names may have the micro sign and the signs of
ordinals. -/
abbrev NameLetters.latin : NameLetters := ⟨['ª', 'µ', 'º']⟩

variable [NameLetters]

def isNameLetter (c : Char) : Bool := letterRanges.contains c || NameLetters.extra.contains c

def isNameStart (c : Char) : Bool :=
  if c.toNat < 0x80 then isAsciiLetter c || c = '_' else isNameLetter c

def isNameChar (c : Char) : Bool :=
  if c.toNat < 0x80 then isAsciiAlnum c || c = '_' || c = '-' || c = '.'
  else isNameLetter c || followerRanges.contains c

/-- A name without a colon. -/
def readName? : List Char → Option (String × List Char)
  | c :: rest =>
    if isNameStart c then
      some (String.ofList (c :: rest.takeWhile isNameChar), rest.dropWhile isNameChar)
    else none
  | [] => none

def readQName? (cs : List Char) : Option (QName × List Char) :=
  match readName? cs with
  | none => none
  | some (a, ':' :: rest) => (readName? rest).map fun (b, rest) => (⟨some a, b⟩, rest)
  | some (a, rest) => some (⟨none, a⟩, rest)

/-- One or more name characters, a colon among them or not. -/
def readToken? (cs : List Char) : Option (String × List Char) :=
  let isPart (c : Char) : Bool := isNameChar c || c = ':'
  let token := cs.takeWhile isPart
  if token.isEmpty then none else some (String.ofList token, cs.dropWhile isPart)

/-- Skips a processing instruction, of which the opening has been read. Its target is not `xml`. -/
def skipInstruction? (cs : List Char) : Option (List Char) :=
  match readName? cs with
  | none => none
  | some (target, rest) =>
    if target.toList.map Char.toLower = "xml".toList then none
    else if startsWith "?>" rest then dropWord? "?>" rest
    else (someBlanks? rest).bind (skipPast? "?>")

/-! ## References -/

inductive Reference
  | char (c : Char)
  | entity (name : String)
  deriving DecidableEq, Repr

def baseValue? (base : Nat) (c : Char) : Option Nat :=
  let v? : Option Nat :=
    if isAsciiDigit c then some (c.toNat - 48)
    else if 'a' ≤ c && c ≤ 'f' then some (c.toNat - 87)
    else if 'A' ≤ c && c ≤ 'F' then some (c.toNat - 55)
    else none
  v?.filter (· < base)

/-- The character with a number, if a document may contain it. -/
def numbered? (n : Nat) : Option Char :=
  if n.isValidChar && isXmlChar (Char.ofNat n) then some (Char.ofNat n) else none

def readNumber? (base : Nat) (cs : List Char) : Option (Reference × List Char) :=
  let isPart (c : Char) : Bool := (baseValue? base c).isSome
  let digits := cs.takeWhile isPart
  match cs.dropWhile isPart with
  | ';' :: rest =>
    if digits.isEmpty then none
    else
      let n := digits.foldl (fun n c => n * base + (baseValue? base c).getD 0) 0
      (numbered? n).map fun c => (.char c, rest)
  | _ => none

/-- The entities that need no declaration. -/
def predefined? (name : String) : Option Char :=
  if name = "lt" then some '<'
  else if name = "gt" then some '>'
  else if name = "amp" then some '&'
  else if name = "apos" then some '\''
  else if name = "quot" then some '"'
  else none

/-- What an ampersand, which has been read, refers to. -/
def readReference? : List Char → Option (Reference × List Char)
  | '#' :: 'x' :: rest => readNumber? 16 rest
  | '#' :: rest => readNumber? 10 rest
  | cs =>
    match readName? cs with
    | some (name, ';' :: rest) =>
      some ((match predefined? name with | some c => .char c | none => .entity name), rest)
    | _ => none

end ScriptGateway.Markup
