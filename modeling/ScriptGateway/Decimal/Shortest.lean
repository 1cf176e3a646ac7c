import ScriptGateway.Decimal.Binary64

/-!
# Shortest decimal text

The decimal numeral of fewest digits that reads back as a given binary number, of several the
nearest to it, and its layout as text.
-/

set_option autoImplicit false

namespace ScriptGateway.Decimal

/-- `a / b < c / d`, or equal where `closed`. -/
def fractionBelow (closed : Bool) (a b c d : Nat) : Bool :=
  if closed then a * d ≤ c * b else a * d < c * b

/-- The reals that read back as `mantissa · 2 ^ exponent` lie between two halfway points; in units
of a quarter of the last binary place these are `low` and `high`. -/
structure Span where
  low : Nat
  value : Nat
  high : Nat
  /-- The halfway points themselves belong to it. -/
  closed : Bool

def Span.of (mantissa : Nat) (exponent : Int) : Span where
  low :=
    if mantissa = Nat.pow 2 52 && exponent > minExponent then 4 * mantissa - 1
    else 4 * mantissa - 2
  value := 4 * mantissa
  high := 4 * mantissa + 2
  closed := mantissa % 2 = 0

/-- The point `n · 10 ^ k` lies in the span, whose unit is `num / den`. -/
def Span.holds (s : Span) (num den n : Nat) (k : Int) : Bool :=
  let p := if 0 ≤ k then n * Nat.pow 10 k.toNat else n
  let d := if 0 ≤ k then 1 else Nat.pow 10 (-k).toNat
  fractionBelow s.closed (s.low * num) den p d && fractionBelow s.closed p d (s.high * num) den

/-- Of the two points of the grid of `10 ^ k` next to `num / den`, the nearest that `ok` holds of;
of two equally near the even one. -/
def gridPoint? (num den : Nat) (k : Int) (ok : Nat → Bool) : Option Nat :=
  let t : Nat × Nat :=
    if 0 ≤ k then (num, den * Nat.pow 10 k.toNat) else (num * Nat.pow 10 (-k).toNat, den)
  let n := t.1 / t.2
  let nearest := roundHalfEven t.1 t.2
  let other := if nearest = n then n + 1 else n
  if ok nearest then some nearest else if ok other then some other else none

/-- The digits of a positive number and the power of ten of the last one, trying grids from the
coarsest to the finest. -/
def shortestFrom (s : Span) (num den : Nat) : (tries : Nat) → (k : Int) → Nat × Int
  | 0, k => (0, k)
  | tries + 1, k =>
    match gridPoint? (s.value * num) den k (fun n => 0 < n && s.holds num den n k) with
    | some n => (n, k)
    | none => shortestFrom s num den tries (k - 1)

/-- The numeral of fewest digits for `mantissa · 2 ^ exponent`, as digits and power of ten. -/
def shortest (mantissa : Nat) (exponent : Int) : Nat × Int :=
  let s := Span.of mantissa exponent
  -- a unit of the span is a quarter of the last place
  let u := scaled 1 1 (2 - exponent)
  let whole := s.value * u.1 / u.2
  let top : Int :=
    if 0 < whole then (Nat.toDigits 10 whole).length
    else -((Nat.toDigits 10 (u.2 / (s.value * u.1))).length : Int) + 1
  shortestFrom s u.1 u.2 40 top

/-- Drops the zeros at the end of a row of digits and counts them into the power of ten. -/
def dropZeros (digits : List Char) (k : Int) : List Char × Int :=
  let kept := (digits.reverse.dropWhile (· = '0')).reverse
  (kept, k + (digits.length - kept.length : Nat))

/-- Where numbers are written without an exponent: from the first to the second power of ten. -/
structure Layout where
  least : Int
  greatest : Int

/-- Ten thousandths and more, and less than ten quadrillions, are written in full. -/
def plain : Layout := ⟨-4, 15⟩

/-- Digits `d₁d₂…` that stand for `d₁.d₂… · 10 ^ e`, laid out as text. -/
def layOut (l : Layout) (digits : List Char) (e : Int) : List Char :=
  if e < l.least || e > l.greatest then
    let mantissa := match digits with
      | d :: [] => [d]
      | d :: rest => d :: '.' :: rest
      | [] => []
    let power := Nat.toDigits 10 e.natAbs
    mantissa ++ ['e', if e < 0 then '-' else '+']
      ++ (if power.length < 2 then '0' :: power else power)
  else if e < 0 then
    '0' :: '.' :: (List.replicate ((-e).toNat - 1) '0' ++ digits)
  else
    let whole := digits.take (e.toNat + 1)
    let rest := digits.drop (e.toNat + 1)
    whole ++ List.replicate (e.toNat + 1 - whole.length) '0'
      ++ '.' :: (if rest.isEmpty then ['0'] else rest)

/-- A finite number in the fewest digits that read back as it. -/
def finiteText (negative : Bool) (mantissa : Nat) (exponent : Int) : String :=
  let sign := if negative then ['-'] else []
  if mantissa = 0 then String.ofList (sign ++ ['0', '.', '0'])
  else
    let s := shortest mantissa exponent
    let d := dropZeros (Nat.toDigits 10 s.1) s.2
    String.ofList (sign ++ layOut plain d.1 (d.2 + d.1.length - 1))

end ScriptGateway.Decimal
