import EscapeOnce.Value.Conversion

/-!
# Structural description of a value

Names the kind of every value and shows what it holds.  Unlike the diagnostic form it never fails:
an object shows as the name of its type.  Floating-point numbers are in the bare style.
-/

namespace EscapeOnce.Value

/-- A description under the name of a kind. -/
def tagged (kind : String) (content : Text) : Text := kind.toList ++ '(' :: content ++ [')']

mutual

/-- The structural description of a value. -/
def describe : Value → Text
  | null => "Null".toList
  | bool b => tagged "Bool" (if b then "true".toList else "false".toList)
  | int i => tagged "Int" (Number.int i).toText
  | float x => tagged "Float" (x.written .structural)
  | str t => tagged "Str" t.quoted
  | bytes b => tagged "Bytes" (bracketed '[' ']' (b.map fun byte => Numeral.decimal byte.toNat))
  | safe s => tagged "Safe" s.representation
  | list items => tagged "List" (bracketed '[' ']' (describeItems items))
  | map entries => tagged "Map" (bracketed '{' '}' (describeEntries entries))
  | object o => tagged "Object" o.typeName

/-- The structural descriptions of the items of a list. -/
def describeItems : List Value → List Text
  | [] => []
  | v :: rest => v.describe :: describeItems rest

/-- The structural descriptions of the entries of a dictionary. -/
def describeEntries : List (Text × Value) → List Text
  | [] => []
  | (key, v) :: rest => (key.quoted ++ [':', ' '] ++ v.describe) :: describeEntries rest

end

end EscapeOnce.Value
