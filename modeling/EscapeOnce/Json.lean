import EscapeOnce.Number

/-!
# JSON documents

A document as it was written: the members of an object in order, a repeated name included.  A
number without fraction and exponent that fits 64 bits is an integer, and any other number is a
floating-point number.
-/

namespace EscapeOnce

/-- A JSON document. -/
inductive Json where
  | null
  | bool (b : Bool)
  | number (n : Number)
  | string (t : Text)
  | array (elements : List Json)
  | object (members : List (Text × Json))

end EscapeOnce
