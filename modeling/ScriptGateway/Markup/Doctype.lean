import ScriptGateway.Markup.Declarations

/-!
# Document type declarations

Reads the declarations inside a document. Element types and notations are only checked for their
form. Nothing outside the document is read, so a reference to what may be declared there is tolerated
where XML allows it.
-/

set_option autoImplicit false

namespace ScriptGateway.Markup

variable [NameLetters]

/-! ## Markup declarations -/

/-- A quoted literal in a declaration; a blank or the end of the declaration follows it. -/
def readLiteral? (cs : List Char) : Option (List Char × List Char) :=
  (readQuoted? cs).filter fun (_, rest) =>
    match rest with
    | c :: _ => isXmlSpace c || c = '>' || c = '%' || c = '['
    | [] => false

def isPublicChar (c : Char) : Bool :=
  Text.isAsciiAlnum c || " \n-'()+,./:=?;!*#@$_%".toList.contains c

/-- The address of something outside the document. A public name alone is enough for a notation. -/
def skipExternal? (forNotation : Bool) (cs : List Char) : Option (List Char) :=
  if startsWith "SYSTEM" cs then do
    let cs ← dropWord? "SYSTEM" cs
    let cs ← someBlanks? cs
    let (_, cs) ← readLiteral? cs
    some cs
  else if startsWith "PUBLIC" cs then do
    let cs ← dropWord? "PUBLIC" cs
    let cs ← someBlanks? cs
    let (name, cs) ← readLiteral? cs
    if !name.all isPublicChar then none
    else
      let after := skipBlanks cs
      match readLiteral? after with
      | some (_, rest) => some rest
      | none => if forNotation then some cs else none
  else none

/-- Ends a declaration. -/
def endDeclaration? (cs : List Char) : Option (List Char) := dropWord? ">" (skipBlanks cs)

/-- The replacement text that an entity value stands for: character references are replaced and
others kept. -/
def entityText : (fuel : Nat) → List Char → Option (List Char)
  | 0, _ => none
  | _, [] => some []
  | fuel + 1, c :: rest =>
    if c = '%' then none
    else if c = '&' then
      let kept (rest' : List Char) : List Char := '&' :: rest.take (rest.length - rest'.length)
      match readReference? rest with
      | none => none
      | some (.char d, rest') =>
        let text := if rest.head? = some '#' then [d] else kept rest'
        (entityText fuel rest').map (text ++ ·)
      | some (.entity _, rest') => (entityText fuel rest').map (kept rest' ++ ·)
    else (entityText fuel rest).map (c :: ·)

/-- An entity declaration behind its keyword. Parameter entities are checked and passed over. The
value is looked at only where declarations count. -/
def readEntity? (d : Declarations) (cs : List Char) : Option (Declarations × List Char) := do
  let cs ← someBlanks? cs
  let (isParameter, cs) ← match cs with
    | '%' :: rest => (someBlanks? rest).map fun r => (true, r)
    | cs => some (false, cs)
  let (name, cs) ← readName? cs
  let cs ← someBlanks? cs
  let add (v : EntityValue) : Declarations := if isParameter then d else d.addEntity name v
  match readLiteral? cs with
  | some (value, cs) =>
    let text ← if d.counting then entityText (value.length + 1) value else some []
    let cs ← endDeclaration? cs
    some (add (.internal text), cs)
  | none =>
    let cs ← skipExternal? false cs
    let cs ← match (someBlanks? cs).bind (dropWord? "NDATA") with
      | some rest =>
        if isParameter then none
        else (someBlanks? rest).bind fun r => (readName? r).map (·.2)
      | none => some cs
    let cs ← endDeclaration? cs
    some (add .external, cs)

/-- The rest of a choice in parentheses: tokens with bars between them. -/
def skipTokens? : (fuel : Nat) → List Char → Option (List Char)
  | 0, _ => none
  | fuel + 1, cs =>
    match readToken? (skipBlanks cs) with
    | none => none
    | some (_, rest) =>
      match skipBlanks rest with
      | '|' :: rest => skipTokens? fuel rest
      | ')' :: rest => some rest
      | _ => none

/-- Types whose values are rows of words. -/
def wordTypes : List String :=
  ["ID", "IDREF", "IDREFS", "ENTITY", "ENTITIES", "NMTOKEN", "NMTOKENS"]

/-- The type of an attribute: whether it is text, and what follows. -/
def readType? (cs : List Char) : Option (Bool × List Char) :=
  match cs with
  | '(' :: rest => (skipTokens? rest.length rest).map fun r => (false, r)
  | cs => do
    let (name, rest) ← readName? cs
    if name = "CDATA" then some (true, rest)
    else if wordTypes.contains name then some (false, rest)
    else if name = "NOTATION" then
      match ← someBlanks? rest with
      | '(' :: rest => (skipTokens? rest.length rest).map fun r => (false, r)
      | _ => none
    else none

/-- What an attribute declaration says of a value that is left out. -/
def readDefault? (cs : List Char) : Option (Option (List Char) × List Char) :=
  if startsWith "#REQUIRED" cs then (dropWord? "#REQUIRED" cs).map fun r => (none, r)
  else if startsWith "#IMPLIED" cs then (dropWord? "#IMPLIED" cs).map fun r => (none, r)
  else if startsWith "#FIXED" cs then do
    let cs ← dropWord? "#FIXED" cs
    let cs ← someBlanks? cs
    let (v, rest) ← readLiteral? cs
    some (some v, rest)
  else (readLiteral? cs).map fun (v, rest) => (some v, rest)

/-- The attributes that a declaration lists for an element, up to its end. -/
def readAttributeDecls? (element : String) : (fuel : Nat) → Declarations → List Char →
    Option (Declarations × List Char)
  | 0, _, _ => none
  | fuel + 1, d, cs =>
    match endDeclaration? cs with
    | some rest => some (d, rest)
    | none => do
      let cs ← someBlanks? cs
      let (name, cs) ← readQName? cs
      let cs ← someBlanks? cs
      let (isText, cs) ← readType? cs
      let cs ← someBlanks? cs
      let (written, cs) ← readDefault? cs
      let value ← match written with
        | none => some none
        | some w =>
          if !d.counting then some none
          else (attributeValue? (if w.contains '&' then d.bounded else d) isText w).map some
      readAttributeDecls? element fuel (d.addAttribute ⟨element, name, isText, value⟩) cs

/-- Drops the sign of how often a part occurs. -/
def dropOccurrence : List Char → List Char
  | c :: rest => if c = '?' || c = '*' || c = '+' then rest else c :: rest
  | [] => []

/-- Skips the content model of an element behind its first parenthesis. The separator is fixed by
the first one that is found. -/
def skipModel? : (fuel : Nat) → (separator : Option Char) → List Char → Option (List Char)
  | 0, _, _ => none
  | fuel + 1, separator, cs => do
    let rest ← match skipBlanks cs with
      | '(' :: rest => skipModel? fuel none rest
      | cs => (readQName? cs).map fun (_, rest) => dropOccurrence rest
    match skipBlanks rest with
    | ')' :: rest => some (dropOccurrence rest)
    | c :: rest =>
      if (c = ',' || c = '|') && (separator.isNone || separator = some c) then
        skipModel? fuel (some c) rest
      else none
    | [] => none

/-- Skips a model of text and elements behind its keyword. -/
def skipMixed? : (fuel : Nat) → (named : Bool) → List Char → Option (List Char)
  | 0, _, _ => none
  | fuel + 1, named, cs =>
    match skipBlanks cs with
    | ')' :: '*' :: rest => some rest
    | ')' :: rest => if named then none else some rest
    | '|' :: rest => (readQName? (skipBlanks rest)).bind fun (_, rest) => skipMixed? fuel true rest
    | _ => none

/-- Skips an element declaration behind its keyword. -/
def skipElementDecl? (cs : List Char) : Option (List Char) := do
  let cs ← someBlanks? cs
  let (_, cs) ← readQName? cs
  let cs ← someBlanks? cs
  let rest ← match cs with
    | '(' :: rest =>
      match dropWord? "#PCDATA" (skipBlanks rest) with
      | some rest => skipMixed? (rest.length + 1) false rest
      | none => skipModel? (rest.length + 1) none rest
    | cs =>
      if startsWith "EMPTY" cs then dropWord? "EMPTY" cs
      else if startsWith "ANY" cs then dropWord? "ANY" cs
      else none
  endDeclaration? rest

/-- Skips a notation declaration behind its keyword. -/
def skipNotation? (cs : List Char) : Option (List Char) := do
  let cs ← someBlanks? cs
  let (_, cs) ← readName? cs
  let cs ← someBlanks? cs
  let cs ← skipExternal? true cs
  endDeclaration? cs

/-- The declarations between brackets, up to the closing one. -/
def readSubset? : (fuel : Nat) → Declarations → List Char → Option (Declarations × List Char)
  | 0, _, _ => none
  | fuel + 1, d, cs =>
    match skipBlanks cs with
    | ']' :: rest => some (d, rest)
    | '%' :: rest =>
      match readName? rest with
      | some (_, ';' :: rest) => readSubset? fuel d.skipOutside rest
      | _ => none
    | cs =>
      if startsWith "<!--" cs then
        ((dropWord? "<!--" cs).bind skipComment?).bind (readSubset? fuel d)
      else if startsWith "<?" cs then
        ((dropWord? "<?" cs).bind skipInstruction?).bind (readSubset? fuel d)
      else if startsWith "<!ENTITY" cs then
        ((dropWord? "<!ENTITY" cs).bind (readEntity? d)).bind fun (d, cs) => readSubset? fuel d cs
      else if startsWith "<!ATTLIST" cs then do
        let cs ← dropWord? "<!ATTLIST" cs
        let cs ← someBlanks? cs
        let (element, cs) ← readQName? cs
        let (d, cs) ← readAttributeDecls? element.text (cs.length + 1) d cs
        readSubset? fuel d cs
      else if startsWith "<!ELEMENT" cs then
        ((dropWord? "<!ELEMENT" cs).bind skipElementDecl?).bind (readSubset? fuel d)
      else if startsWith "<!NOTATION" cs then
        ((dropWord? "<!NOTATION" cs).bind skipNotation?).bind (readSubset? fuel d)
      else none

/-- A document type declaration behind its keyword. -/
def readDoctype? (d : Declarations) (cs : List Char) : Option (Declarations × List Char) := do
  let cs ← someBlanks? cs
  let (_, cs) ← readQName? cs
  let (d, cs) ← match (someBlanks? cs).bind (skipExternal? false) with
    | some rest => some ({ d with partly := true }, rest)
    | none => some (d, cs)
  match skipBlanks cs with
  | '[' :: rest =>
    let (d, rest) ← readSubset? (rest.length + 1) d rest
    let rest ← endDeclaration? rest
    some (d.bounded, rest)
  | cs => (endDeclaration? cs).map fun rest => (d, rest)

end ScriptGateway.Markup
