import ScriptGateway.Markup.Encoding
import ScriptGateway.Markup.Scan
import ScriptGateway.Text.Utf8

/-!
# From bytes to characters

The encoding of an XML document and its characters. A byte order mark or zero bytes at the start
tell sixteen-bit encodings from the others; among those the XML declaration names the encoding, and
without one it is UTF-8.
-/

set_option autoImplicit false

namespace ScriptGateway.Markup

open Text

/-- Why bytes are not read as characters. -/
inductive ByteFault
  | malformed
  | encoding (name : String) (flaw : EncodingFlaw)
  deriving DecidableEq, Repr

/-! ## The XML declaration -/

structure Declaration where
  encoding : Option String
  standalone : Bool
  deriving DecidableEq, Repr

def isDeclarationChar (c : Char) : Bool := isAsciiAlnum c || c = '.' || c = '-' || c = '_'

/-- A quoted value after a name and an equals sign, with blanks before the name. -/
def readPseudo? (name : String) (cs : List Char) : Option (String × List Char) := do
  let cs ← someBlanks? cs
  let cs ← dropWord? name cs
  match skipBlanks cs with
  | '=' :: cs =>
    let (value, rest) ← readQuoted? (skipBlanks cs)
    if value.all isDeclarationChar then some (String.ofList value, rest) else none
  | _ => none

def isEncodingName (s : String) : Bool := (s.toList.head?.map isAsciiLetter).getD false

def namesNext (name : String) (cs : List Char) : Bool := startsWith name (skipBlanks cs)

/-- The declaration at the start of a document, and what follows it; a document may have none. -/
def readDeclaration? (cs : List Char) : Option (Option Declaration × List Char) :=
  match dropWord? "<?xml" cs with
  | some (c :: rest) =>
    if isXmlSpace c then do
      let (_, rest) ← readPseudo? "version" (c :: rest)
      let (encoding, rest) ← if namesNext "encoding" rest then
          (readPseudo? "encoding" rest).bind fun (e, rest) =>
            if isEncodingName e then some (some e, rest) else none
        else some (none, rest)
      let (standalone, rest) ← if namesNext "standalone" rest then
          (readPseudo? "standalone" rest).bind fun (s, rest) =>
            if s = "yes" then some (true, rest) else if s = "no" then some (false, rest) else none
        else some (false, rest)
      let rest ← dropWord? "?>" (skipBlanks rest)
      some (some ⟨encoding, standalone⟩, rest)
    else if c = '?' then none
    else some (none, cs)
  | _ => some (none, cs)

/-! ## Encodings -/

/-- The order of the two bytes of a sixteen-bit unit. -/
inductive ByteOrder
  | big
  | little
  deriving DecidableEq, Repr

/-- The whole units of a row of bytes. -/
def units (o : ByteOrder) : List UInt8 → List Nat
  | a :: b :: rest =>
    (match o with
      | .big => a.toNat * 256 + b.toNat
      | .little => b.toNat * 256 + a.toNat) :: units o rest
  | _ => []

/-- Joins each unit of the high half to a character with the one after it, of which the last ten bits
count whatever it is. A unit of the low half has no place of its own: what comes before it, and
whether there was none. -/
def ofUnits : List Nat → List Char × Bool
  | [] => ([], true)
  | u :: rest =>
    if 0xD800 ≤ u && u < 0xDC00 then
      match rest with
      | v :: rest =>
        let more := ofUnits rest
        (Char.ofNat (0x10000 + (u - 0xD800) * 0x400 + v % 0x400) :: more.1, more.2)
      | [] => ([], false)
    else if 0xDC00 ≤ u && u < 0xE000 then ([], false)
    else
      let more := ofUnits rest
      (Char.ofNat u :: more.1, more.2)

def latinChars (bs : List UInt8) : List Char := bs.map fun b => Char.ofNat b.toNat

/-- Decodes ASCII without some of its characters. -/
def asciiChars? (without : List Char) (bs : List UInt8) : Option (List Char) :=
  let cs := latinChars bs
  if cs.all fun c => c.toNat < 0x80 && !without.contains c then some cs else none

/-- Decodes by the upper half of a code page; below it every page is ASCII. -/
def pageChars? (upper : List Char) : List UInt8 → Option (List Char)
  | [] => some []
  | b :: rest =>
    let c? : Option Char :=
      if b.toNat < 0x80 then some (Char.ofNat b.toNat)
      else upper[b.toNat - 0x80]?.filter (· ≠ '\uFFFD')
    c?.bind fun c => (pageChars? upper rest).map (c :: ·)

def wellFormed {α : Type} : Option α → Except ByteFault α
  | some a => .ok a
  | none => .error .malformed

/-- What the bytes of a document come to. -/
structure Decoded where
  /-- The letters that its names may have. -/
  letters : NameLetters
  chars : List Char

def Decoded.plain (cs : List Char) : Decoded := ⟨.plain, cs⟩

def Decoded.latin (cs : List Char) : Decoded := ⟨.latin, cs⟩

/-- Decodes one-byte and multi-byte encodings other than the sixteen-bit ones. Latin 1 is known by one
name without a table. -/
def decodeNamed (name : String) (bs : List UInt8) : Except ByteFault Decoded :=
  let small := String.ofList (name.toList.map Char.toLower)
  if ["utf-16", "utf-16be", "utf-16le"].contains small then .error .malformed
  else if small = "utf-8" then (wellFormed (decode? bs)).map .plain
  else if small = "iso-8859-1" then .ok (.latin (latinChars bs))
  else match readingOf name with
    | .ok .latin => .ok (.plain (latinChars bs))
    | .ok (.ascii without) => (wellFormed (asciiChars? without bs)).map .plain
    | .ok (.page upper) => (wellFormed (pageChars? upper bs)).map .plain
    | .ok .foreign => .error .malformed
    | .error f => .error (.encoding name f)

/-- What a sixteen-bit document says of its encoding, if that keeps it from being read. -/
def unitFault? (o : ByteOrder) (declared : String) : Option ByteFault :=
  let small := String.ofList (declared.toList.map Char.toLower)
  if small = "utf-16" || small = (match o with | .big => "utf-16be" | .little => "utf-16le") then
    none
  else if ["utf-8", "iso-8859-1", "us-ascii", "utf-16be", "utf-16le"].contains small then
    some .malformed
  else match readingOf declared with
    | .ok _ => some .malformed
    | .error f => some (.encoding declared f)

/-- Decodes sixteen-bit units. The declaration is looked at before what comes after it. -/
def decodeUnits (o : ByteOrder) (bs : List UInt8) : Except ByteFault Decoded :=
  let (cs, whole) := ofUnits (units o bs)
  match readDeclaration? cs with
  | none => .error .malformed
  | some (declaration, _) =>
    match declaration.bind fun d => d.encoding.bind (unitFault? o) with
    | some f => .error f
    | none => if whole && bs.length % 2 = 0 then .ok (.latin cs) else .error .malformed

def decodeBytes (bs : List UInt8) : Except ByteFault Decoded :=
  match readDeclaration? (latinChars bs) with
  | none => .error .malformed
  | some (some ⟨some name, _⟩, _) => decodeNamed name bs
  | some _ => (wellFormed (decode? bs)).map .plain

/-- The characters of a document, with every line end made one line feed. -/
def decodeDocument (bs : List UInt8) : Except ByteFault Decoded := do
  let d ← match bs with
    | 0xFE :: 0xFF :: rest => decodeUnits .big rest
    | 0xFF :: 0xFE :: rest => decodeUnits .little rest
    | 0xEF :: 0xBB :: 0xBF :: rest => decodeBytes rest
    | 0 :: _ => decodeUnits .big bs
    | _ :: 0 :: _ => decodeUnits .little bs
    | _ => decodeBytes bs
  if d.chars.all isXmlChar then return { d with chars := normalizeLines d.chars }
  else .error .malformed

end ScriptGateway.Markup
