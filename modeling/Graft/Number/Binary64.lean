/-!
# Double-precision numbers

A number with a fraction or an exponent is held to double precision. The finite ones
are `m · 2^e` with `m` below `2^53`, and everything about them is exact arithmetic on
`m` and `e`: reading a decimal rounds the exact ratio once, to the nearest number and
to the even one of two that are equally near.
-/

namespace Graft

/-- A double-precision number. A finite one has a mantissa below `2^53`, of at least
`2^52` unless its exponent is the least one, -1074. -/
inductive Binary64 where
  /-- No number. -/
  | nan
  /-- Beyond the largest finite number. -/
  | infinite (negative : Bool)
  /-- The mantissa times two to the exponent. -/
  | finite (negative : Bool) (mantissa : Nat) (exponent : Int)
deriving DecidableEq, Repr

namespace Binary64

/-- A quotient rounded to the nearest whole number, a half to the even one. -/
def roundDiv (num den : Nat) : Nat :=
  let q := num / den
  let r := num % den
  if 2 * r < den then q
  else if den < 2 * r then q + 1
  else if q % 2 = 0 then q else q + 1

/-- The bound of mantissas, `2^53`. -/
def bound : Nat := 0x20000000000000

/-- A ratio of whole numbers divided by a power of two, as a ratio. -/
def scaleDown (num den : Nat) (exponent : Int) : Nat × Nat :=
  if 0 ≤ exponent then (num, den * Nat.pow 2 exponent.toNat)
  else (num * Nat.pow 2 (-exponent).toNat, den)

/-- The number nearest to a ratio. The exponent is chosen so that the mantissa has 53
bits, or is the least one; rounding up may carry into the next exponent. -/
def ofRatio (negative : Bool) (num den : Nat) : Binary64 :=
  if num = 0 then .finite negative 0 (-1074)
  else
    let low := max ((num.log2 : Int) - den.log2 - 53) (-1074)
    let (n, d) := scaleDown num den low
    let exponent := if n / d < bound then low else low + 1
    let (n, d) := scaleDown num den exponent
    let mantissa := roundDiv n d
    let (mantissa, exponent) :=
      if mantissa = bound then (bound / 2, exponent + 1) else (mantissa, exponent)
    if 971 < exponent then .infinite negative else .finite negative mantissa exponent

/-- The number nearest to `digits · 10^exponent`. Exponents far outside the range are
settled before any power is taken. -/
def ofDecimal (negative : Bool) (digits : Nat) (exponent : Int) : Binary64 :=
  if digits = 0 then .finite negative 0 (-1074)
  else if 400 < exponent then .infinite negative
  else if 0 ≤ exponent then ofRatio negative (digits * Nat.pow 10 exponent.toNat) 1
  else if (digits.log2 : Int) + 401 < -exponent then .finite negative 0 (-1074)
  else ofRatio negative digits (Nat.pow 10 (-exponent).toNat)

/-- The number is zero, of either sign. -/
def isZero : Binary64 → Bool
  | .finite _ 0 _ => true
  | _ => false

/-- The number has the value of an integer. -/
def eqInt : Binary64 → Int → Bool
  | .finite negative mantissa exponent, i =>
    let (n, d) := scaleDown i.natAbs 1 exponent
    n == mantissa * d && (mantissa == 0 || negative == decide (i < 0))
  | _, _ => false

/-- Two numbers have one value. The two zeros do; a nan is the same as itself. -/
def same (a b : Binary64) : Bool := a == b || (a.isZero && b.isZero)

end Binary64

end Graft
