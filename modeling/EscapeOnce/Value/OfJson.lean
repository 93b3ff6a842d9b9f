import EscapeOnce.Json
import EscapeOnce.Value

/-!
# JSON documents as values

A document becomes a value of the same shape.  An object becomes a dictionary in the order of its
names, and of members with one name the last counts.
-/

namespace EscapeOnce.Value

mutual

/-- The value of a document. -/
def ofJson : Json → Value
  | .null => null
  | .bool b => bool b
  | .number (.int i) => int i
  | .number (.float x) => float x
  | .string t => str t
  | .array elements => list (ofElements elements)
  | .object members => map (Dict.sortedOf (ofMembers members))

/-- The values of the elements of an array. -/
def ofElements : List Json → List Value
  | [] => []
  | element :: rest => ofJson element :: ofElements rest

/-- The members of an object with their values. -/
def ofMembers : List (Text × Json) → List (Text × Value)
  | [] => []
  | (name, member) :: rest => (name, ofJson member) :: ofMembers rest

end

end EscapeOnce.Value
