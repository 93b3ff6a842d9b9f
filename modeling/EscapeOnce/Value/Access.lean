import EscapeOnce.Error
import EscapeOnce.Value

/-!
# Items of a value

A field of a template may name an item of its argument, an item of that item, and so on.  A list
has items by position, a dictionary by the text of the key, and an object has whatever fields it
has.  Nothing else has items.
-/

namespace EscapeOnce.Value

/-- The item of a value under a key. -/
def item (v : Value) (key : FieldKey) : Except FormatError Value :=
  match v, key with
  | list items, .index n =>
    match items[n]? with
    | some found => .ok found
    | none => .error (.indexOutOfRange n)
  | map entries, _ =>
    match Dict.get? entries key.toText with
    | some found => .ok found
    | none => .error (.missingKey key.toText)
  | object o, _ =>
    match o.field key with
    | some found => .ok found
    | none => .error (.noField o.typeName key.toText)
  | _, _ => .error (.noField v.typeName key.toText)

/-- The value reached by following keys one after the other. -/
def follow (v : Value) : List FieldKey → Except FormatError Value
  | [] => .ok v
  | key :: keys => do (← v.item key).follow keys

end EscapeOnce.Value
