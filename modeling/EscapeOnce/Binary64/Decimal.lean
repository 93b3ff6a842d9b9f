import EscapeOnce.Binary64
import EscapeOnce.Numeral

/-!
# Decimal digits of a floating-point number

Every finite binary number is exactly a decimal one, since `2 ^ (-k)` is `5 ^ k * 10 ^ (-k)`.  All
digits are taken from that exact decimal.

## A given number of digits

`Decimal.atPlaces` rounds to a multiple of a power of ten, `Decimal.significant` to a number of
significant digits.  Both round the exact value once, a tie to the even digit.

## The fewest digits

`Binary64.shortest` gives the shortest decimal that reads back as the number.  The reals that round
to the number form an interval around it, whose ends belong to it exactly when the significand is
even.  A grid of decimals with `n` significant digits has a point in that interval only if one of
the two grid points next to the value lies in it, so the grids are tried from the coarsest on, each
at those two points.  Of two points inside, the nearer is taken, and the upper one if the value is
halfway.
-/

namespace EscapeOnce

/-- The decimal number `digits * 10 ^ exponent`. -/
structure Decimal where
  digits : Nat
  exponent : Int
  deriving DecidableEq

/-- Decimal digits of a number, the first of them standing for multiples of `10 ^ exponent`. -/
structure Scientific where
  digits : Text
  exponent : Int
  deriving DecidableEq

namespace Decimal

/-- The nearest multiple of `10 ^ (-places)`, as the natural number of such units. -/
def atPlaces (d : Decimal) (places : Nat) : Nat :=
  let shift := d.exponent + places
  roundQuotient (d.digits * Nat.pow 10 shift.toNat) (Nat.pow 10 (-shift).toNat)

/-- The number rounded to `count` significant digits.  Rounding may carry into the next power of
ten; zero has `count` zeros. -/
def significant (d : Decimal) (count : Nat) : Scientific :=
  if d.digits = 0 then
    ⟨List.replicate count '0', 0⟩
  else
    let length := (Numeral.decimal d.digits).length
    let rounded :=
      roundQuotient (d.digits * Nat.pow 10 (count - length)) (Nat.pow 10 (length - count))
    if rounded = Nat.pow 10 count then
      ⟨Numeral.decimal (Nat.pow 10 (count - 1)), d.exponent + length⟩
    else ⟨Numeral.decimal rounded, d.exponent + length - 1⟩

/-- The digits of a positive number without the zeros at their end. -/
def stripped (d : Decimal) : Scientific :=
  let digits := Numeral.decimal d.digits
  ⟨(digits.reverse.dropWhile (· == '0')).reverse, d.exponent + digits.length - 1⟩

end Decimal

namespace Binary64

/-- The exact value of a finite number, without its sign. -/
def toDecimal (x : Binary64) : Decimal :=
  if 0 ≤ x.scale then ⟨x.significand <<< x.scale.toNat, 0⟩
  else ⟨x.significand * Nat.pow 5 (-x.scale).toNat, x.scale⟩

/-- A number that lies strictly between its two neighbours together with the ends of the interval
of reals that round to it, all three as multiples of one power of ten. -/
structure RoundingInterval where
  low : Nat
  value : Nat
  high : Nat
  exponent : Int
  closed : Bool

/-- The reals that round to a finite positive number.  The gap below a power of two is half the gap
above it, except at the least normal number. -/
def roundingInterval (x : Binary64) : RoundingInterval :=
  let quarters := 4 * x.significand
  let scale := x.scale - 2
  let factor := if 0 ≤ scale then Nat.pow 2 scale.toNat else Nat.pow 5 (-scale).toNat
  let narrow := x.fractionField = 0 ∧ 1 < x.exponentField
  { low := (if narrow then quarters - 1 else quarters - 2) * factor
    value := quarters * factor
    high := (quarters + 2) * factor
    exponent := min scale 0
    closed := x.significand % 2 = 0 }

namespace RoundingInterval

/-- The interval holds `n` multiples of its power of ten. -/
def holds (r : RoundingInterval) (n : Nat) : Bool :=
  if r.closed then r.low ≤ n && n ≤ r.high else r.low < n && n < r.high

/-- Of the multiples of `unit` next to the value, the one in the interval; of two, the nearer one,
and the upper one if the value is halfway. -/
def onGrid? (r : RoundingInterval) (unit : Nat) : Option Nat :=
  let below := r.value / unit * unit
  let above := below + unit
  if r.holds below && (!r.holds above || r.value - below < above - r.value) then some below
  else if r.holds above then some above
  else none

/-- The decimal in the interval with the fewest significant digits, among those the nearest to the
value. -/
def shortest (r : RoundingInterval) : Decimal :=
  let length := (Numeral.decimal r.value).length
  let found := (List.range length).findSome? fun k => r.onGrid? (Nat.pow 10 (length - 1 - k))
  ⟨found.getD r.value, r.exponent⟩

end RoundingInterval

/-- The fewest digits that read back as a finite number, without its sign. -/
def shortest (x : Binary64) : Scientific :=
  if x.isZero then ⟨['0'], 0⟩ else x.roundingInterval.shortest.stripped

end Binary64

end EscapeOnce
