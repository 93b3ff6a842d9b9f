import EscapeOnce.Error
import EscapeOnce.Value

/-!
# Values as texts

A value has a text, `Value.stringify`, and a diagnostic form, `Value.representation`.  Neither
escapes anything.  For texts the two differ: the diagnostic form is quoted.  A list or a dictionary
has no text but its diagnostic form, and an object without a text of its own falls back to it too.
Binary data has no text at all.

`Value.toSafe` is the way into a page: safe text passes as it is, and the text of any other value
is escaped.
-/

namespace EscapeOnce.Value

/-- The diagnostic forms of several parts, between brackets and separated by commas. -/
def bracketed (opening closing : Char) (parts : List Text) : Text :=
  opening :: [',', ' '].intercalate parts ++ [closing]

/-- An object's own conversion, with a failure as an error of the library. -/
def converted (c : EscapeOnce.Conversion) : Except MarkupError Text := c.mapError .conversion

mutual

/-- The diagnostic form of a value. -/
def representation : Value → Except MarkupError Text
  | null => .ok "null".toList
  | bool b => .ok (if b then "true".toList else "false".toList)
  | int i => .ok (Number.int i).toText
  | float x => .ok x.toText
  | str t => .ok t.quoted
  | bytes b => .ok (Text.quotedBytes b)
  | safe s => .ok s.representation
  | list items => (representations items).map (bracketed '[' ']')
  | map entries => (entryRepresentations entries).map (bracketed '{' '}')
  | object o => converted o.representation

/-- The diagnostic forms of the items of a list. -/
def representations : List Value → Except MarkupError (List Text)
  | [] => .ok []
  | v :: rest => do
    let first ← v.representation
    let others ← representations rest
    return first :: others

/-- The diagnostic forms of the entries of a dictionary. -/
def entryRepresentations : List (Text × Value) → Except MarkupError (List Text)
  | [] => .ok []
  | (key, v) :: rest => do
    let first ← v.representation
    let others ← entryRepresentations rest
    return (key.quoted ++ [':', ' '] ++ first) :: others

end

/-- The text of a value. -/
def stringify (v : Value) : Except MarkupError Text :=
  match v with
  | null => .ok []
  | str t => .ok t
  | bytes _ => .error (.inputType .text v.typeName)
  | safe s => .ok s.buffer
  | object o =>
    match o.ownText with
    | some text => converted text
    | none => converted o.representation
  | bool _ | int _ | float _ | list _ | map _ => v.representation

/-- The safe form of a value: safe text as it is, the text of anything else escaped. -/
def toSafe : Value → Except MarkupError SafeText
  | safe s => .ok s
  | v => v.stringify.map SafeText.escape

/-- The escaped form of a value that has to be raw text. -/
def escapeRaw : Value → Except MarkupError Text
  | str t => .ok (Entity.escape t)
  | v => .error (.inputType .rawText v.typeName)

end EscapeOnce.Value
