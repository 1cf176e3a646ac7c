import ScriptGateway.Text.Join

/-!
# Similar words

How much two words have in common: their longest common block, and then the same before and behind
it. The words most like a mistyped one are offered in its place.
-/

set_option autoImplicit false

namespace ScriptGateway.Text

/-- How far two rows of characters agree from their fronts on. -/
def agreement : List Char → List Char → Nat
  | c :: cs, d :: ds => if c = d then agreement cs ds + 1 else 0
  | _, _ => 0

/-- A block that two words have in common: where it starts in each, and its length. -/
structure Block where
  first : Nat
  second : Nat
  length : Nat
  deriving DecidableEq, Repr

/-- The longest common block; of several the one that starts first in the first word, and then in
the second. -/
def longestBlock (a b : List Char) : Block :=
  let blocks := (List.range a.length).flatMap fun i =>
    (List.range b.length).map fun j => ⟨i, j, agreement (a.drop i) (b.drop j)⟩
  blocks.foldl (fun best x => if best.length < x.length then x else best) ⟨0, 0, 0⟩

/-- The number of characters in common blocks, where `depth` is no less than the length of the first
word. -/
def inCommon : (depth : Nat) → List Char → List Char → Nat
  | 0, _, _ => 0
  | depth + 1, a, b =>
    let x := longestBlock a b
    if x.length = 0 then 0
    else x.length + inCommon depth (a.take x.first) (b.take x.second)
      + inCommon depth (a.drop (x.first + x.length)) (b.drop (x.second + x.length))

/-- A word with how like it is to another: characters in common, of all characters of both. -/
structure Likeness where
  word : String
  common : Nat
  total : Nat
  deriving DecidableEq, Repr

def likeness (mistyped word : String) : Likeness :=
  ⟨word, inCommon word.length word.toList mistyped.toList, word.length + mistyped.length⟩

/-- Three fifths of the characters stand in common blocks. -/
def Likeness.isClose (l : Likeness) : Bool := 3 * l.total ≤ 10 * l.common

def Likeness.better (l m : Likeness) : Bool :=
  l.common * m.total > m.common * l.total
    || (l.common * m.total = m.common * l.total && l.word ≥ m.word)

/-- At most three words close to a mistyped one, in alphabetical order. -/
def similar (words : List String) (mistyped : String) : List String :=
  let close := ((words.map (likeness mistyped)).filter (·.isClose)).mergeSort Likeness.better
  ((close.take 3).map (·.word)).mergeSort fun s t => s ≤ t

end ScriptGateway.Text
