import EscapeOnce.Number

/-!
# Cutting a fraction off in floating point

`Binary64.truncate?` calculates the integer part of a number exactly, and `int64?` asks whether it
is an integer of 64 bits.  The same can be had without leaving floating point: the fraction is cut
off the number, the number that is left is compared with the two bounds of the integers, which are
made floating-point numbers for this, and it is converted only if it lies between them.

The lower bound is a floating-point number.  The upper one is not, and rounds up to the first power
of two that is out of range, so that end of the range is left out.

Comparison and conversion go by the multiples of the least positive number that a number is, its
units.
-/

namespace EscapeOnce.Binary64

/-- The absolute value in units of the least positive number.  An infinite number has more units
than any finite one. -/
def units (x : Binary64) : Nat := x.significand <<< (max x.exponentField 1 - 1)

/-- The number of binary places behind the point that the least positive number has. -/
def leastPlaces : Nat := 1074

/-- The units of the number one. -/
def unitsOfOne : Nat := 1 <<< leastPlaces

/-- The number in units, with its sign. -/
def signedUnits (x : Binary64) : Int := if x.isNegative then -x.units else x.units

/-- Comparison as numbers; an undefined number is not at most anything. -/
def atMost (x y : Binary64) : Bool := !x.isNaN && !y.isNaN && x.signedUnits ≤ y.signedUnits

/-- Strict comparison as numbers; an undefined number is not below anything. -/
def lessThan (x y : Binary64) : Bool := !x.isNaN && !y.isNaN && x.signedUnits < y.signedUnits

/-- The number without its fraction: the bits that stand for one are cleared. -/
def trunc (x : Binary64) : Binary64 :=
  if x.exponentField < 1023 then
    ofMagnitude x.isNegative 0
  else
    let places := 1075 - x.exponentField
    ofMagnitude x.isNegative ((x.bits.toNat % signBit) >>> places <<< places)

/-- The integer part before any bound is set to it. -/
def whole (x : Binary64) : Int :=
  if x.isNegative then -(x.units / unitsOfOne : Nat) else (x.units / unitsOfOne : Nat)

/-- Conversion to an integer of 64 bits: a number beyond the bounds becomes the bound that it is
beyond, and an undefined one becomes zero. -/
def toInt64 (x : Binary64) : Int64 :=
  if x.isNaN then 0
  else Int64.ofInt (max Int64.minValue.toInt (min x.whole Int64.maxValue.toInt))

/-- The integer part of a number, if the number without its fraction lies between the bounds. -/
def integerPart? (x : Binary64) : Option Int64 :=
  let least := ofInt Int64.minValue.toInt
  let beyond := ofInt Int64.maxValue.toInt
  if least.atMost x.trunc && x.trunc.lessThan beyond then some x.trunc.toInt64 else none

end EscapeOnce.Binary64
