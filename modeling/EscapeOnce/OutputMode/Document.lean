import EscapeOnce.Json.Reading
import EscapeOnce.OutputMode

/-!
# Output modes in JSON

A mode is written as its name.  It is read from exactly that string, or from an object whose one
member has the name and the value null, which is how a choice without content may also be written.
-/

namespace EscapeOnce.OutputMode

/-- The mode with exactly this name. -/
def ofName? (t : Text) : Option OutputMode := [html, plain].find? fun m => m.name = t

/-- The mode that a document stands for. -/
def ofJson? : Json → Option OutputMode
  | .string t => ofName? t
  | .object [(t, .null)] => ofName? t
  | _ => none

/-- The mode that a JSON text stands for. -/
def readJson? (t : Text) : Option OutputMode := (Json.parse t).bind ofJson?

/-- The JSON text of a mode. -/
def toJsonText (m : OutputMode) : Text := Json.writtenString m.name

end EscapeOnce.OutputMode
