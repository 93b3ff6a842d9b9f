import EscapeOnce.Number

/-!
# The value of a JSON number

A number is read into a significand of 64 bits and a power of ten.  Digits go into the significand
as long as it fits.  From the first digit of the whole part that does not fit, the whole part only
counts powers of ten; from the first digit of the fraction that does not fit, the fraction has no
effect.

The floating-point value is then the significand, rounded, times or divided by the power of ten,
rounded again.  A power beyond `10 ^ 308` is divided out in several steps, each of which rounds.  A
number too large to be finite is refused; one too small becomes zero.
-/

namespace EscapeOnce.Json

/-- A JSON number as it is written. -/
structure WrittenNumber where
  negative : Bool
  /-- The digits of the whole part. -/
  whole : Text
  /-- The digits of the fraction, if there is one. -/
  fraction : Option Text
  /-- The sign of the exponent, negative or not, and its digits, if there is one. -/
  exponent : Option (Bool × Text)

/-- One more than the largest significand. -/
def significandLimit : Nat := UInt64.size

/-- One more than the largest exponent that is read as a number. -/
def exponentLimit : Nat := 2147483648

/-- The largest power of ten that is applied in one step. -/
def stepLimit : Nat := 308

/-- Takes digits into a significand as long as it fits; gives the significand and the number of
digits taken. -/
def takeDigits (significand : Nat) : Text → Nat × Nat
  | [] => (significand, 0)
  | d :: t =>
    let next := Nat.ofDigitChars 10 [d] significand
    if next < significandLimit then
      let (result, taken) := takeDigits next t
      (result, taken + 1)
    else
      (significand, 0)

/-- A number times a power of ten.  It is refused if the result is not finite. -/
def scaleBy (x : Binary64) (exponent : Int) : Option Binary64 :=
  if 0 ≤ exponent then
    if exponent ≤ stepLimit then
      let product := x.mul (.powerOfTen exponent.toNat)
      if product.isFinite then some product else none
    else if x.isZero then some x
    else none
  else if -stepLimit ≤ exponent then
    some (x.div (.powerOfTen exponent.natAbs))
  else if x.isZero then
    some x
  else
    scaleBy (x.div (.powerOfTen stepLimit)) (exponent + stepLimit)
termination_by (-exponent).toNat
decreasing_by simp only [stepLimit] at *; omega

/-- The floating-point value of a number with a given sign. -/
def signed (negative : Bool) (x : Binary64) : Binary64 := if negative then x.neg else x

namespace WrittenNumber

/-- The floating-point value of a written number. -/
def toBinary64? (w : WrittenNumber) : Option Binary64 :=
  let (whole, taken) := takeDigits 0 w.whole
  let (significand, decimals) := takeDigits whole (w.fraction.getD [])
  let shift : Int := (w.whole.length - taken : Nat) - decimals
  let magnitude := Binary64.ofInt significand
  match w.exponent with
  | none => (scaleBy magnitude shift).map (signed w.negative)
  | some (negative, digits) =>
    let exponent := Numeral.valueOf digits
    if exponent < exponentLimit then
      (scaleBy magnitude (if negative then shift - exponent else shift + exponent)).map
        (signed w.negative)
    else if significand = 0 || negative then
      some (signed w.negative (Binary64.ofInt 0))
    else
      none

/-- The integer that a written number is: one without fraction and exponent that fits 64 bits.  A
negative zero is not an integer. -/
def toInt64? (w : WrittenNumber) : Option Int64 :=
  let n := Numeral.valueOf w.whole
  if w.fraction.isSome || w.exponent.isSome || w.negative && n == 0 then none
  else int64? (if w.negative then -n else n)

/-- The value of a written number. -/
def toNumber? (w : WrittenNumber) : Option Number :=
  match w.toInt64? with
  | some i => some (.int i)
  | none => w.toBinary64?.map .float

end WrittenNumber

end EscapeOnce.Json
