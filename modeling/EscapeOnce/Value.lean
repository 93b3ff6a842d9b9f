import EscapeOnce.Dict
import EscapeOnce.Number
import EscapeOnce.SafeText

/-!
# Values

A `Value` is anything that can be put into a page.  Most kinds of value are data.  The last kind,
an object, is a value of a type that the library does not know.  It brings along its own
conversions, each of which may fail with a report of its own, and its own fields.

Nothing about an object can be compared except that it is the same object, so each carries an
identity, which a copy keeps.
-/

namespace EscapeOnce

/-- The key of an item: a position in a list, or a name. -/
inductive FieldKey where
  | index (n : Nat)
  | name (t : Text)
  deriving DecidableEq

namespace FieldKey

/-- The number of indices: they have 64 bits. -/
def indexLimit : Nat := UInt64.size

/-- Digits that denote an index are that index; anything else is a name. -/
def parse (t : Text) : FieldKey :=
  if !t.isEmpty && t.all Char.isDigit && Numeral.valueOf t < indexLimit then
    index (Numeral.valueOf t)
  else
    name t

/-- The text of a key. -/
def toText : FieldKey → Text
  | index n => Numeral.decimal n
  | name t => t

end FieldKey

/-- A conversion by an object itself: a text, or the object's report of a failure. -/
abbrev Conversion := Except Text Text

/-- What an object brings along; its fields are values of type `α`. -/
structure Object (α : Type) where
  /-- Distinguishes the object from every other. -/
  identity : Nat
  typeName : Text
  /-- The object's own text, if its type has one. -/
  ownText : Option Conversion
  /-- The diagnostic form, which also serves as text where there is no other. -/
  representation : Conversion
  /-- The object's fields. -/
  field : FieldKey → Option α

/-- Anything that can be put into a page. -/
inductive Value where
  /-- The explicit absence of a value. -/
  | null
  | bool (b : Bool)
  | int (i : Int64)
  | float (x : Binary64)
  /-- Raw text, which is escaped before it becomes part of a page. -/
  | str (t : Text)
  /-- Binary data, which is not accepted where text is needed. -/
  | bytes (b : List UInt8)
  /-- Text that is already escaped. -/
  | safe (s : SafeText)
  | list (items : List Value)
  /-- A dictionary: the entries in order, no key twice. -/
  | map (entries : List (Text × Value))
  | object (o : Object Value)

namespace Value

/-- The object that shows as a given text. -/
def shownAs (identity : Nat) (t : Text) : Value :=
  object
    { identity
      typeName := "object".toList
      ownText := some (.ok t)
      representation := .ok t
      field := fun _ => none }

/-- The name of the kind of a value. -/
def typeName : Value → Text
  | null => "null".toList
  | bool _ => "bool".toList
  | int _ => "int".toList
  | float _ => "float".toList
  | str _ => "str".toList
  | bytes _ => "bytes".toList
  | safe _ => "SafeText".toList
  | list _ => "list".toList
  | map _ => "map".toList
  | object o => o.typeName

/-- The value is the explicit absence of one. -/
def isNull : Value → Bool
  | null => true
  | _ => false

/-- The value is safe text. -/
def isSafe : Value → Bool
  | safe _ => true
  | _ => false

/-- The raw text that a value is, if it is raw text. -/
def rawText? : Value → Option Text
  | str t => some t
  | _ => none

end Value

end EscapeOnce
