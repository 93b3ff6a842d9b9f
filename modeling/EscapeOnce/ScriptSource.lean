import EscapeOnce.Value.Conversion

/-!
# Script source inside a page

A script element ends at the first `</`, whatever the script means by it.  Writing a backslash
between the two characters keeps the element open and, inside a script's string, changes nothing.
No entity is written: script source is not markup.
-/

namespace EscapeOnce.ScriptSource

/-- Script source with every `</` taken apart by a backslash. -/
def guardEndTags : Text → Text
  | '<' :: '/' :: t => '<' :: '\\' :: '/' :: guardEndTags t
  | c :: t => c :: guardEndTags t
  | [] => []

/-- The text of a value as script source that is safe in a script element. -/
def ofValue (v : Value) : Except MarkupError SafeText :=
  v.stringify.map fun t => .trusted (guardEndTags t)

end EscapeOnce.ScriptSource
