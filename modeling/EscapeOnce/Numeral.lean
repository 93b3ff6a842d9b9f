import EscapeOnce.Text

/-!
# Numerals

Decimal numerals as texts: writing a number, reading a run of digits, and setting commas.  Leading
zeros are read without effect, so a run of any length may denote a small number.
-/

namespace EscapeOnce.Numeral

/-- The decimal numeral of a natural number, without leading zeros. -/
def decimal (n : Nat) : Text := Nat.toDigits 10 n

/-- The decimal numeral of an integer, with a minus sign if it is negative. -/
def signedDecimal (i : Int) : Text :=
  if i < 0 then '-' :: decimal i.natAbs else decimal i.natAbs

/-- The numeral in capital letters, if they are asked for. -/
def cased (upper : Bool) (t : Text) : Text := if upper then t.map Char.toUpper else t

/-- The number that a run of decimal digits denotes. -/
def valueOf (digits : Text) : Nat := Nat.ofDigitChars 10 digits 0

/-- The run of decimal digits that a text begins with, which may be empty. -/
def leadingDigits (t : Text) : Text := t.takeWhile Char.isDigit

/-- The text behind its leading run of decimal digits. -/
def afterDigits (t : Text) : Text := t.dropWhile Char.isDigit

/-- Sets a comma between digits wherever a multiple of three digits follows. -/
def groupDigits : Text → Text
  | [] => []
  | d :: ds =>
    if !ds.isEmpty && ds.length % 3 == 0 then d :: ',' :: groupDigits ds else d :: groupDigits ds

/-- Sets commas in the leading run of digits of a numeral; a fraction, an exponent or any other
tail stays as it is. -/
def grouped (t : Text) : Text := groupDigits (leadingDigits t) ++ afterDigits t

end EscapeOnce.Numeral
