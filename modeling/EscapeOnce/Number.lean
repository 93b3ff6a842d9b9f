import EscapeOnce.Binary64.Written

/-!
# Numbers

A number is an integer of 64 bits or a floating-point number.  Its text needs no escaping, since it
has none of the markup characters, and its layout is the one that a specifier's numeric options
apply to.
-/

namespace EscapeOnce

/-- An integer or a floating-point number. -/
inductive Number where
  | int (i : Int64)
  | float (x : Binary64)
  deriving DecidableEq

/-- The integer of 64 bits that an integer is, if it fits. -/
def int64? (i : Int) : Option Int64 :=
  if Int64.minValue.toInt ≤ i ∧ i ≤ Int64.maxValue.toInt then some (Int64.ofInt i) else none

namespace Number

/-- The plain text of a number. -/
def toText : Number → Text
  | int i => Numeral.signedDecimal i.toInt
  | float x => x.toText

/-- The number as a floating-point number; an integer is rounded to the nearest one. -/
def toBinary64 : Number → Binary64
  | int i => Binary64.ofInt i.toInt
  | float x => x

/-- The name of the kind of number. -/
def typeName : Number → Text
  | int _ => "int".toList
  | float _ => "float".toList

end Number

end EscapeOnce
