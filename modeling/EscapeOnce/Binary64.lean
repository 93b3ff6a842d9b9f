/-!
# Binary floating-point numbers of 64 bits

A `Binary64` is its 64 bits: a sign, an exponent field of eleven bits and a fraction of fifty-two.
Everything is computed on natural numbers read off the bits, so each operation is an exact
calculation followed by one rounding.

A finite number is, up to its sign, `significand * 2 ^ scale`.  The one place where a number is
rounded is `Binary64.nearest`, which takes an exact quotient of natural numbers to the nearest
number, a tie going to the one with an even significand, and to infinity beyond the largest finite
number.  Products and quotients are exact quotients of significands, handed to it.
-/

namespace EscapeOnce

/-- A binary floating-point number of 64 bits. -/
structure Binary64 where
  bits : UInt64
  deriving DecidableEq

/-- The quotient of two natural numbers rounded to the nearest integer, a tie to the even one. -/
def roundQuotient (num den : Nat) : Nat :=
  let floor := num / den
  let rest := num % den
  if 2 * rest < den then floor
  else if den < 2 * rest then floor + 1
  else if floor % 2 = 0 then floor
  else floor + 1

namespace Binary64

/-! ## The fields -/

/-- The weight of the sign bit. -/
def signBit : Nat := 0x8000000000000000

/-- The weight of the lowest bit of the exponent field, which is also that of the implicit leading
bit of a significand. -/
def exponentUnit : Nat := 0x10000000000000

/-- The value of an exponent field of ones, which infinite and undefined numbers have. -/
def exponentLimit : Nat := 2047

/-- The sign bit is set. -/
def isNegative (x : Binary64) : Bool := signBit ≤ x.bits.toNat

/-- The exponent field. -/
def exponentField (x : Binary64) : Nat := x.bits.toNat % signBit / exponentUnit

/-- The fraction field. -/
def fractionField (x : Binary64) : Nat := x.bits.toNat % exponentUnit

/-- The number is neither infinite nor undefined. -/
def isFinite (x : Binary64) : Bool := x.exponentField < exponentLimit

/-- The number is undefined: the result of an operation without one. -/
def isNaN (x : Binary64) : Bool := x.exponentField = exponentLimit && x.fractionField ≠ 0

/-- The number is one of the two zeros. -/
def isZero (x : Binary64) : Bool := x.exponentField = 0 && x.fractionField = 0

/-- The significand of a finite number: the fraction, with the implicit leading bit unless the
number is subnormal. -/
def significand (x : Binary64) : Nat :=
  if x.exponentField = 0 then x.fractionField else exponentUnit + x.fractionField

/-- The binary exponent of a finite number, which is `± significand * 2 ^ scale`. -/
def scale (x : Binary64) : Int := (max x.exponentField 1 : Nat) - 1075

/-- The number of a given sign whose other bits, taken as a natural number, are `magnitude`. -/
def ofMagnitude (negative : Bool) (magnitude : Nat) : Binary64 :=
  ⟨UInt64.ofNat (if negative then signBit + magnitude else magnitude)⟩

/-- Infinity of a given sign. -/
def infinity (negative : Bool) : Binary64 := ofMagnitude negative (exponentLimit * exponentUnit)

/-- The same number with a positive sign. -/
def abs (x : Binary64) : Binary64 := ofMagnitude false (x.bits.toNat % signBit)

/-- The same number with the opposite sign. -/
def neg (x : Binary64) : Binary64 := ofMagnitude (!x.isNegative) (x.bits.toNat % signBit)

/-! ## Rounding -/

/-- `num / den` is at least `2 ^ e`. -/
def atLeastPowerOfTwo (num den : Nat) (e : Int) : Bool :=
  den <<< e.toNat ≤ num <<< (-e).toNat

/-- The binary exponent of the leading bit of the quotient of two positive numbers. -/
def leadingExponent (num den : Nat) : Int :=
  let guess : Int := num.log2 - den.log2
  if atLeastPowerOfTwo num den guess then guess else guess - 1

/-- The number nearest to `num / den` with the given sign, a tie to the even significand; infinity
if that number would be beyond the finite ones.  The magnitude bits of a number with significand
`m` and scale `s` are `(s + 1074) * exponentUnit + m`, also when rounding has carried into the next
power of two and also for subnormal numbers, whose scale is the least one. -/
def nearest (negative : Bool) (num den : Nat) : Binary64 :=
  if num = 0 then
    ofMagnitude negative 0
  else
    let s := max (-1074) (leadingExponent num den - 52)
    let m := roundQuotient (num <<< (-s).toNat) (den <<< s.toNat)
    let magnitude := (s + 1074).toNat * exponentUnit + m
    if magnitude < exponentLimit * exponentUnit then ofMagnitude negative magnitude
    else infinity negative

/-- The number nearest to an integer. -/
def ofInt (i : Int) : Binary64 := nearest (i < 0) i.natAbs 1

/-- The number nearest to `10 ^ k`. -/
def powerOfTen (k : Nat) : Binary64 := nearest false (Nat.pow 10 k) 1

/-! ## Arithmetic on finite numbers -/

/-- The product of two finite numbers, rounded once. -/
def mul (x y : Binary64) : Binary64 :=
  let s := x.scale + y.scale
  nearest (x.isNegative != y.isNegative)
    ((x.significand * y.significand) <<< s.toNat) (1 <<< (-s).toNat)

/-- The quotient of two finite numbers, the second not zero, rounded once. -/
def div (x y : Binary64) : Binary64 :=
  let s := x.scale - y.scale
  nearest (x.isNegative != y.isNegative)
    (x.significand <<< s.toNat) (y.significand <<< (-s).toNat)

/-- The integer part of a number, rounded toward zero; infinite and undefined numbers have none. -/
def truncate? (x : Binary64) : Option Int :=
  if x.isFinite then
    let whole := (x.significand <<< x.scale.toNat) >>> (-x.scale).toNat
    some (if x.isNegative then -whole else whole)
  else
    none

/-- Comparison as numbers: the two zeros are equal, and an undefined number equals nothing. -/
def equals (x y : Binary64) : Bool :=
  !x.isNaN && !y.isNaN && (x.bits = y.bits || x.isZero && y.isZero)

/-! ## Single precision -/

/-- A number of 32 bits, given by them, at full width.  Every such number is one of 64 bits; an
undefined one keeps its payload and becomes quiet. -/
def ofBinary32 (bits : UInt32) : Binary64 :=
  let negative := 0x80000000 ≤ bits.toNat
  let exponent := bits.toNat % 0x80000000 / 0x800000
  let fraction := bits.toNat % 0x800000
  if exponent = 255 then
    if fraction = 0 then infinity negative
    else ofMagnitude negative (exponentLimit * exponentUnit + (0x400000 ||| fraction) <<< 29)
  else if exponent = 0 then
    nearest negative fraction (1 <<< 149)
  else
    nearest negative ((0x800000 + fraction) <<< exponent) (1 <<< 150)

end Binary64

end EscapeOnce
