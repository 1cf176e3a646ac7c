import ScriptGateway.Markup.Bytes
import ScriptGateway.Markup.Doctype
import ScriptGateway.Markup.Node

/-!
# Reading XML documents

From the characters of a document to its element tree. Names are resolved to their namespaces,
references to entities are replaced by what they stand for, and attributes that are left out get
the default values that the document declares.
-/

set_option autoImplicit false

namespace ScriptGateway.Markup

/-! ## Namespaces -/

/-- Which namespace each name prefix stands for; the empty one stands for the default namespace. -/
abbrev Scope := List (String × String)

def xmlSpace : String := "http://www.w3.org/XML/1998/namespace"

def xmlnsSpace : String := "http://www.w3.org/2000/xmlns/"

def outerScope : Scope := [("xml", xmlSpace)]

/-- A name together with its namespace. -/
def inSpace (space base : String) : String := "\x7b" ++ space ++ "\x7d" ++ base

/-- Binds a prefix to a namespace. Some bindings are reserved, and only the default namespace can
be taken back. -/
def bindSpace? (scope : Scope) (name uri : String) : Option Scope :=
  if name = "xmlns" then none
  else if (name = "xml") ≠ (uri = xmlSpace) then none
  else if uri = xmlnsSpace || uri.toList.contains '\x7d' then none
  else if uri.isEmpty && !name.isEmpty then none
  else some ((name, uri) :: scope)

/-- The prefix that an attribute binds, if it is a namespace declaration. -/
def boundPrefix? (n : QName) : Option String :=
  match n.space? with
  | none => if n.base = "xmlns" then some "" else none
  | some s => if s = "xmlns" then some n.base else none

def bindSpaces? (scope : Scope) (attributes : List (QName × String)) : Option Scope :=
  attributes.foldlM (fun scope a =>
    match boundPrefix? a.1 with
    | some p => bindSpace? scope p a.2
    | none => some scope) scope

def elementName? (scope : Scope) (n : QName) : Option String :=
  match n.space? with
  | some s => (scope.lookup s).map (inSpace · n.base)
  | none =>
    match scope.lookup "" with
    | some uri => some (if uri.isEmpty then n.base else inSpace uri n.base)
    | none => some n.base

def attributeName? (scope : Scope) (n : QName) : Option String :=
  match n.space? with
  | some s => (scope.lookup s).map (inSpace · n.base)
  | none => some n.base

variable [NameLetters]

/-! ## Tags -/

/-- The attributes of a start tag as they are written, whether the tag is that of an empty element,
and what follows the tag. -/
structure StartTag where
  name : QName
  written : List (QName × List Char)
  isEmpty : Bool
  rest : List Char

def readWritten? (name : QName) : (fuel : Nat) → (before : List (QName × List Char)) → List Char →
    Option StartTag
  | 0, _, _ => none
  | fuel + 1, before, cs =>
    match skipBlanks cs with
    | '>' :: rest => some ⟨name, before, false, rest⟩
    | '/' :: rest => (dropWord? ">" rest).map fun rest => ⟨name, before, true, rest⟩
    | _ => do
      let cs ← someBlanks? cs
      let (n, cs) ← readQName? cs
      let cs ← dropWord? "=" (skipBlanks cs)
      let (value, cs) ← readQuoted? (skipBlanks cs)
      if before.any (·.1 = n) then none
      else readWritten? name fuel (before ++ [(n, value)]) cs

/-- A start tag behind its opening bracket. -/
def readStartTag? (fuel : Nat) (cs : List Char) : Option StartTag :=
  (readQName? cs).bind fun (n, rest) => readWritten? n fuel [] rest

/-- The values of the attributes of an element, those that are left out last. -/
def valuesOf? (d : Declarations) (t : StartTag) : Option (List (QName × String)) := do
  let element := t.name.text
  let given ← t.written.mapM fun (n, w) =>
    let isText := ((d.attribute? element n).map (·.isText)).getD true
    (attributeValue? d isText w).map fun v => (n, String.ofList v)
  let missing := (d.defaults element).filter fun a => !t.written.any (·.1 = a.name)
  let added := missing.filterMap fun a => a.defaultValue.map fun v => (a.name, String.ofList v)
  some (given ++ added)

/-- The element of a tag without its content, and the scope inside it. -/
def open? (d : Declarations) (scope : Scope) (t : StartTag) :
    Option (Scope × String × List (String × String)) := do
  let values ← valuesOf? d t
  let scope ← bindSpaces? scope values
  let tag ← elementName? scope t.name
  let attributes ← (values.filter (boundPrefix? ·.1 |>.isNone)).mapM fun (n, v) =>
    (attributeName? scope n).map fun name => (name, v)
  if (attributes.map (·.1)).Nodup then some (scope, tag, attributes) else none

/-! ## Content -/

/-- A run of characters holds no end of a marked section. -/
def isPlainText : List Char → Bool
  | [] => true
  | c :: rest => !startsWith "]]>" (c :: rest) && isPlainText rest

/-- What an entity stands for in content, given the scope at the reference. -/
abbrev Expansion := Scope → String → Option (List Node)

mutual

/-- The content of an element up to its end tag, which is left, or to the end of the text. -/
def readContent? (d : Declarations) (expand : Expansion) : (fuel : Nat) → Scope → List Char →
    Option (List Node × List Char)
  | 0, _, _ => none
  | _, _, [] => some ([], [])
  | fuel + 1, scope, '<' :: rest =>
    match rest with
    | '/' :: _ => some ([], '<' :: rest)
    | '!' :: _ =>
      if startsWith "!--" rest then
        ((dropWord? "!--" rest).bind skipComment?).bind (readContent? d expand fuel scope)
      else do
        let body ← dropWord? "![CDATA[" rest
        let (inner, after) ← splitAtWord? "]]>" body
        let (more, rest) ← readContent? d expand fuel scope after
        some (.text (String.ofList inner) :: more, rest)
    | '?' :: rest => (skipInstruction? rest).bind (readContent? d expand fuel scope)
    | _ => do
      let (n, rest) ← readElement? d expand fuel scope rest
      let (more, rest) ← readContent? d expand fuel scope rest
      some (n :: more, rest)
  | fuel + 1, scope, '&' :: rest =>
    match readReference? rest with
    | none => none
    | some (.char c, rest) =>
      (readContent? d expand fuel scope rest).map fun (more, rest) =>
        (.text (String.singleton c) :: more, rest)
    | some (.entity name, rest) => do
      let nodes ← expand scope name
      let (more, rest) ← readContent? d expand fuel scope rest
      some (nodes ++ more, rest)
  | fuel + 1, scope, cs =>
    let isPart (c : Char) : Bool := c ≠ '<' && c ≠ '&'
    let run := cs.takeWhile isPart
    if isPlainText run then
      (readContent? d expand fuel scope (cs.dropWhile isPart)).map fun (more, rest) =>
        (.text (String.ofList run) :: more, rest)
    else none

/-- An element behind its opening bracket. -/
def readElement? (d : Declarations) (expand : Expansion) : (fuel : Nat) → Scope → List Char →
    Option (Node × List Char)
  | 0, _, _ => none
  | fuel + 1, scope, cs => do
    let t ← readStartTag? fuel cs
    let (inner, tag, attributes) ← open? d scope t
    if t.isEmpty then some (.element tag attributes [], t.rest)
    else
      let (content, rest) ← readContent? d expand fuel inner t.rest
      let rest ← dropWord? "</" rest
      let (n, rest) ← readQName? rest
      if n = t.name then
        (dropWord? ">" (skipBlanks rest)).map fun rest => (.element tag attributes content, rest)
      else none

end

/-- What an entity stands for in content. Its text holds whole elements in the plain letters, and
entities nest no deeper than `depth`. -/
def contentOfEntity (d : Declarations) : (depth : Nat) → Expansion
  | 0, _, _ => none
  | depth + 1, scope, name =>
    match d.entity? name with
    | some (.internal text) =>
      letI := NameLetters.plain
      match readContent? d (contentOfEntity d depth) (2 * text.length + 2) scope text with
      | some (nodes, []) => some nodes
      | _ => none
    | _ => none

/-! ## Documents -/

/-- Skips comments, processing instructions and blanks. -/
def skipMisc? : (fuel : Nat) → List Char → Option (List Char)
  | 0, _ => none
  | fuel + 1, cs =>
    let cs := skipBlanks cs
    if startsWith "<!--" cs then ((dropWord? "<!--" cs).bind skipComment?).bind (skipMisc? fuel)
    else if startsWith "<?" cs then ((dropWord? "<?" cs).bind skipInstruction?).bind (skipMisc? fuel)
    else some cs

/-- From how many bytes on too much is read for the references of a document of the given length:
eight mebibytes together with the document, and more than a hundred times the document. -/
def readingBound (length : Nat) : Nat := max (8 * 1024 * 1024 - length) (99 * length + 1)

/-- The element tree of a document, if it is well-formed. -/
def readDocument? (cs : List Char) : Option Node := do
  let fuel := 2 * cs.length + 2
  let (declaration, cs) ← readDeclaration? cs
  let d := Declarations.empty ((declaration.map (·.standalone)).getD false) (readingBound cs.length)
  let cs ← skipMisc? fuel cs
  let (d, cs) ← if startsWith "<!DOCTYPE" cs then do
      let cs ← dropWord? "<!DOCTYPE" cs
      let (d, cs) ← readDoctype? d cs
      let cs ← skipMisc? fuel cs
      some (d, cs)
    else some (d, cs)
  guard (d.bears cs)
  let cs ← dropWord? "<" cs
  let (root, cs) ← readElement? d (contentOfEntity d (d.entities.length + 1)) fuel outerScope cs
  let cs ← skipMisc? fuel cs
  if cs.isEmpty then some root else none

/-- The element tree of a document given by its bytes. -/
def readBytes (bs : List UInt8) : Except ByteFault Node := do
  let d ← decodeDocument bs
  letI := d.letters
  wellFormed (readDocument? d.chars)

end ScriptGateway.Markup
