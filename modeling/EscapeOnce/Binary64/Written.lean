import EscapeOnce.Binary64.Decimal

/-!
# Floating-point numbers as texts

Digits are one matter and their layout another; this module holds the second.  A number is written
either positionally, with the point among its digits, or exponentially, with the point behind the
first digit and a power of ten after it.

* `Binary64.written` uses the fewest digits that read back, and a `FloatStyle` for what else there
  is to decide.  The style of a text that is shown, `FloatStyle.text`, signs every exponent and
  gives it two digits; that of a structural description, `FloatStyle.structural`, writes the bare
  exponent.
* `Binary64.fixed?`, `Binary64.exponential?` and `Binary64.general?` use a given number of digits.
  They write the number without its sign, and have no text for more places than `placesLimit`.
-/

namespace EscapeOnce

/-- What remains to decide about the text of a number once its digits are chosen. -/
structure FloatStyle where
  /-- The text of an undefined number. -/
  nan : Text
  /-- A positive exponent carries a plus sign. -/
  signedExponent : Bool
  /-- The least number of digits of an exponent. -/
  exponentDigits : Nat

/-- The style of shown text: `1e+16`, `1.5e-05`, `nan`. -/
def FloatStyle.text : FloatStyle where
  nan := "nan".toList
  signedExponent := true
  exponentDigits := 2

/-- The style of structural descriptions: `1e16`, `1.5e-5`, `NaN`. -/
def FloatStyle.structural : FloatStyle where
  nan := "NaN".toList
  signedExponent := false
  exponentDigits := 1

/-- The exponent part of an exponential numeral. -/
def FloatStyle.exponent (style : FloatStyle) (e : Int) : Text :=
  let digits := Numeral.decimal e.natAbs
  let sign := if e < 0 then ['-'] else if style.signedExponent then ['+'] else []
  'e' :: sign ++ List.replicate (style.exponentDigits - digits.length) '0' ++ digits

namespace Scientific

/-- The digits with the point set among them by position; zeros fill the places between the digits
and the point. -/
def positional (s : Scientific) : Text :=
  if s.exponent < 0 then
    ['0', '.'] ++ List.replicate (-s.exponent - 1).toNat '0' ++ s.digits
  else
    let whole := s.exponent.toNat + 1
    if s.digits.length ≤ whole then s.digits ++ List.replicate (whole - s.digits.length) '0'
    else s.digits.take whole ++ '.' :: s.digits.drop whole

/-- The digits with the point behind the first one, if there are more. -/
def mantissa (s : Scientific) : Text :=
  match s.digits with
  | first :: next :: rest => first :: '.' :: next :: rest
  | digits => digits

end Scientific

/-- The numeral, with `.0` behind it if it has no point. -/
def withPoint (numeral : Text) : Text :=
  if numeral.contains '.' then numeral else numeral ++ ['.', '0']

/-- The numeral without the zeros at the end of its fraction, and without its point if no digit is
left behind it. -/
def withoutTrailingZeros (numeral : Text) : Text :=
  if numeral.contains '.' then
    ((numeral.reverse.dropWhile (· == '0')).dropWhile (· == '.')).reverse
  else
    numeral

namespace Binary64

/-- The text of an infinite or undefined number without its sign. -/
def nonFinite (x : Binary64) : Text := if x.isNaN then "nan".toList else "inf".toList

/-- A number is written positionally if its first digit stands for a power of ten from `10 ^ (-4)`
up to `10 ^ 15`, and then always with a fraction; otherwise exponentially. -/
def written (style : FloatStyle) (x : Binary64) : Text :=
  if x.isNaN then
    style.nan
  else
    let sign := if x.isNegative then ['-'] else []
    if !x.isFinite then
      sign ++ "inf".toList
    else
      let s := x.shortest
      if -4 ≤ s.exponent ∧ s.exponent < 16 then sign ++ withPoint s.positional
      else sign ++ s.mantissa ++ style.exponent s.exponent

/-- Shown text of a number: the fewest digits that read back, always with a fraction or an
exponent. -/
def toText (x : Binary64) : Text := x.written .text

/-- The largest number of places behind the point that a numeral is written with: a number of places
is a word of 16 bits. -/
def placesLimit : Nat := 65535

/-- The digits of the absolute value, with the point in front of the last `places` of them. -/
def fixedDigits (x : Binary64) (places : Nat) : Text :=
  if x.isFinite then
    let digits := Numeral.decimal (x.toDecimal.atPlaces places)
    let padded := List.replicate (places + 1 - digits.length) '0' ++ digits
    let whole := padded.length - places
    if places = 0 then padded else padded.take whole ++ '.' :: padded.drop whole
  else
    x.nonFinite

/-- The absolute value with a fixed number of places behind the point, up to the limit. -/
def fixed? (x : Binary64) (places : Nat) : Option Text :=
  if places ≤ placesLimit then some (x.fixedDigits places) else none

/-- The absolute value of a finite number in exponential form, with a fixed number of places behind
the point, up to the limit. -/
def exponential? (x : Binary64) (places : Nat) : Option Text :=
  if places ≤ placesLimit then
    let s := x.toDecimal.significant (places + 1)
    some (s.mantissa ++ FloatStyle.text.exponent s.exponent)
  else
    none

/-- The absolute value with `precision` significant digits, at least one: exponential if the
exponent of the rounded value is below -4 or not below the number of digits, positional otherwise.
A positional numeral rounds the number itself once more, to as many places as the exponent leaves.
Zeros at the end of the fraction are dropped unless `alternate` keeps them; `keepPoint` writes a
fraction of zero where a positional numeral would have none.

The exponent is that of an exponential numeral, so the limit holds for its places first, and then
for those of a positional numeral, which may be more. -/
def general? (x : Binary64) (precision : Nat) (alternate keepPoint : Bool) : Option Text :=
  if x.isFinite then
    let count := max precision 1
    if count - 1 ≤ placesLimit then
      let s := x.toDecimal.significant count
      if s.exponent < -4 ∨ (count : Int) ≤ s.exponent then
        let mantissa := if alternate then s.mantissa else withoutTrailingZeros s.mantissa
        some (mantissa ++ FloatStyle.text.exponent s.exponent)
      else
        (x.fixed? (count - 1 - s.exponent).toNat).map fun fixed =>
          let numeral := if alternate then fixed else withoutTrailingZeros fixed
          if keepPoint then withPoint numeral else numeral
    else
      none
  else
    some x.nonFinite

/-- The text of a number under the general layout, in capital letters or not. -/
def generalText? (x : Binary64) (precision : Nat) (upper alternate keepPoint : Bool) :
    Option Text :=
  (x.general? precision alternate keepPoint).map (Numeral.cased upper)

end Binary64

end EscapeOnce
