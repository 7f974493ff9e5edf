import Graft.Number.Binary64
import Graft.Text.Basic

/-!
# The shortest decimal of a number

A finite number is written with the fewest digits that read back as it. The reals
that round to `m · 2^e` form an interval, whose ends belong to it when `m` is even.
For one digit, two digits and so on, the two multiples of the decimal unit next to the
number are tried, and the first count of digits for which one of them lies in the
interval is taken, with the nearer of the two.

Where the decimal point goes is decided separately (`layout`): numbers from `0.0001`
up to, and without, `10^16` are written out, the others with an exponent.
-/

namespace Graft.Binary64

open Text

/-- A positive ratio with the interval around it, all over one denominator. -/
structure Neighbourhood where
  /-- The numerator of the lower end. -/
  low : Nat
  /-- The numerator of the number itself. -/
  value : Nat
  /-- The numerator of the upper end. -/
  high : Nat
  /-- The common denominator. -/
  den : Nat
  /-- The ends belong to the interval. -/
  closed : Bool

/-- The reals that round to `mantissa · 2^exponent`. Below a power of two the next
number is only half as far away. -/
def neighbourhood (mantissa : Nat) (exponent : Int) : Neighbourhood :=
  let below := if mantissa = bound / 2 ∧ -1074 < exponent then 1 else 2
  let up := Nat.pow 2 (exponent - 2).toNat
  { low := (4 * mantissa - below) * up
    value := 4 * mantissa * up
    high := (4 * mantissa + 2) * up
    den := Nat.pow 2 (2 - exponent).toNat
    closed := mantissa % 2 = 0 }

/-- The neighbourhood in units of a power of ten. -/
def Neighbourhood.inUnits (n : Neighbourhood) (unit : Int) : Neighbourhood :=
  let up := Nat.pow 10 (-unit).toNat
  { n with
    low := n.low * up, value := n.value * up, high := n.high * up,
    den := n.den * Nat.pow 10 unit.toNat }

/-- The whole number in the interval next to the value, if there is one: of two the
nearer, and the even one when both are equally near. -/
def Neighbourhood.nearest? (n : Neighbourhood) : Option Nat :=
  let c := n.value / n.den
  let down := c * n.den
  let up := down + n.den
  let downFits := if n.closed then n.low ≤ down else n.low < down
  let upFits := if n.closed then up ≤ n.high else up < n.high
  if downFits && upFits then
    if n.value - down < up - n.value then some c
    else if up - n.value < n.value - down then some (c + 1)
    else some (if c % 2 = 0 then c else c + 1)
  else if downFits then some c
  else if upFits then some (c + 1)
  else none

/-- The least power of ten above a positive number, from an estimate by its length in
bits. -/
def magnitude (n : Neighbourhood) (mantissa : Nat) (exponent : Int) : Int :=
  let guess := ((mantissa.log2 : Int) + exponent) * 30103 / 100000
  let above (k : Int) : Bool := n.value * Nat.pow 10 (-k).toNat < n.den * Nat.pow 10 k.toNat
  ([guess - 1, guess, guess + 1].find? above).getD (guess + 2)

/-- The fewest digits that read back as a positive number, and how many of them stand
before the point. -/
def shortest (mantissa : Nat) (exponent : Int) : Text × Int :=
  let n := neighbourhood mantissa exponent
  let k := magnitude n mantissa exponent
  let counts : List Nat := (List.range 17).map (· + 1)
  let found : Option (Nat × Int) := counts.findSome? fun (count : Nat) =>
    let unit := k - (count : Int)
    (n.inUnits unit).nearest?.map fun digits => (digits, unit)
  let (digits, unit) := found.getD (0, 0)
  let written := ofNat digits
  let kept := (written.reverse.dropWhile (· == '0')).reverse
  (kept, (written.length : Int) + unit)

/-- Digits with the point after the first `point` of them. Numbers that would need many
zeros get an exponent of at least two digits. -/
def layout (digits : Text) (point : Int) : Text :=
  if -4 < point ∧ point ≤ 16 then
    if point ≤ 0 then "0.".toList ++ List.replicate (-point).toNat '0' ++ digits
    else if digits.length ≤ point.toNat then
      digits ++ List.replicate (point.toNat - digits.length) '0' ++ ".0".toList
    else digits.take point.toNat ++ ['.'] ++ digits.drop point.toNat
  else
    let fraction := if digits.length ≤ 1 then [] else '.' :: digits.drop 1
    let power := point - 1
    let shown := ofNat power.natAbs
    digits.take 1 ++ fraction ++ ['e', if power < 0 then '-' else '+'] ++
      List.replicate (2 - shown.length) '0' ++ shown

/-- The text of a number, given the words for what is not finite. -/
def render (nan infinity : Text) : Binary64 → Text
  | .nan => nan
  | .infinite negative => (if negative then ['-'] else []) ++ infinity
  | .finite negative mantissa exponent =>
    let (digits, point) := if mantissa = 0 then (['0'], 1) else shortest mantissa exponent
    (if negative then ['-'] else []) ++ layout digits point

end Graft.Binary64
