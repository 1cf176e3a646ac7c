/-!
# Binary floating point numbers

Numbers of 53 binary digits, kept as a whole mantissa and a power of two, and the one nearest to a
decimal fraction.
-/

set_option autoImplicit false

namespace ScriptGateway.Decimal

/-- `finite s m q` is `m · 2 ^ q`, negative if `s`. -/
inductive Binary64
  | finite (negative : Bool) (mantissa : Nat) (exponent : Int)
  | infinite (negative : Bool)
  deriving DecidableEq, Repr

/-- The least exponent, reached by the numbers next to zero. -/
def minExponent : Int := -1074

def maxExponent : Int := 971

/-- `num / den · 2 ^ (-q)` as a fraction. -/
def scaled (num den : Nat) (q : Int) : Nat × Nat :=
  if 0 ≤ q then (num, den * Nat.pow 2 q.toNat) else (num * Nat.pow 2 (-q).toNat, den)

/-- The whole number nearest to a fraction, the even one of two. -/
def roundHalfEven (num den : Nat) : Nat :=
  let n := num / den
  let twice := 2 * (num % den)
  if twice < den || (twice = den && n % 2 = 0) then n else n + 1

namespace Binary64

/-- The number nearest to `num / den`. -/
def nearestFraction (negative : Bool) (num den : Nat) : Binary64 :=
  if num = 0 then finite negative 0 minExponent
  else
    let guess : Int := (num.log2 : Int) - den.log2 - 53
    let s := scaled num den guess
    let q := max (if s.1 / s.2 < Nat.pow 2 53 then guess else guess + 1) minExponent
    let t := scaled num den q
    let m := roundHalfEven t.1 t.2
    let r : Nat × Int := if m = Nat.pow 2 53 then (Nat.pow 2 52, q + 1) else (m, q)
    if r.2 > maxExponent then infinite negative else finite negative r.1 r.2

/-- The number nearest to `digits · 10 ^ exponent`. Powers beyond all finite numbers are not
computed. -/
def ofDecimal (negative : Bool) (digits : Nat) (exponent : Int) : Binary64 :=
  let size : Int := (Nat.toDigits 10 digits).length + exponent
  if digits = 0 || size < -400 then finite negative 0 minExponent
  else if size > 400 then infinite negative
  else if 0 ≤ exponent then nearestFraction negative (digits * Nat.pow 10 exponent.toNat) 1
  else nearestFraction negative digits (Nat.pow 10 (-exponent).toNat)

end Binary64

end ScriptGateway.Decimal
