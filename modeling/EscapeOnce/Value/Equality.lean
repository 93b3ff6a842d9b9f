import EscapeOnce.Value

/-!
# Equality of values

Values are equal if they are of the same kind and equal there.  Numbers are compared as numbers, so
an undefined one differs from itself and the two zeros are the same.  Dictionaries are equal if
they have the same keys with equal values, in whatever order.  Objects are equal if they are the
same object.  Values of different kinds are never equal, an integer and a floating-point number
included.
-/

namespace EscapeOnce.Value

mutual

/-- Equality of values. -/
def equals : Value → Value → Bool
  | null, null => true
  | bool a, bool b => a == b
  | int a, int b => a == b
  | float a, float b => a.equals b
  | str a, str b => a == b
  | bytes a, bytes b => a == b
  | safe a, safe b => a == b
  | list as, list bs => equalItems as bs
  | map as, map bs => as.length == bs.length && equalEntries as bs
  | object a, object b => a.identity == b.identity
  | _, _ => false

/-- The lists have the same length and equal items. -/
def equalItems : List Value → List Value → Bool
  | [], [] => true
  | a :: as, b :: bs => a.equals b && equalItems as bs
  | _, _ => false

/-- Every entry has an equal value under its key in the other dictionary. -/
def equalEntries : List (Text × Value) → List (Text × Value) → Bool
  | [], _ => true
  | (key, a) :: rest, bs =>
    match Dict.get? bs key with
    | some b => a.equals b && equalEntries rest bs
    | none => false

end

mutual

/-- No dictionary in the value has a key twice. -/
def WellFormed : Value → Prop
  | list items => WellFormedItems items
  | map entries => (Dict.keys entries).Nodup ∧ WellFormedEntries entries
  | _ => True

/-- No dictionary in the items has a key twice. -/
def WellFormedItems : List Value → Prop
  | [] => True
  | v :: rest => v.WellFormed ∧ WellFormedItems rest

/-- No dictionary in the values of the entries has a key twice. -/
def WellFormedEntries : List (Text × Value) → Prop
  | [] => True
  | (_, v) :: rest => v.WellFormed ∧ WellFormedEntries rest

end

end EscapeOnce.Value
