import EscapeOnce.Error
import EscapeOnce.Unicode.Blank

/-!
# Output modes

A page is put together either as markup or as plain text.  The mode can be named by a user, who may
write the name in any case and with white space around it.
-/

namespace EscapeOnce

/-- How an accumulator treats what it receives. -/
inductive OutputMode where
  /-- Raw fragments are escaped, and the result is safe text. -/
  | html
  /-- Fragments are taken as they are. -/
  | plain
  deriving DecidableEq

namespace OutputMode

/-- The mode is the one for markup. -/
def isHtml (m : OutputMode) : Bool := m = html

/-- The mode for markup or the other one. -/
def ofBool (markup : Bool) : OutputMode := if markup then html else plain

/-- The name of a mode. -/
def name : OutputMode → Text
  | html => "html".toList
  | plain => "plain".toList

/-- The mode with a name, which may be in any case and have white space around it. -/
def parse (t : Text) : Except MarkupError OutputMode :=
  let name := (Unicode.trim t).map Char.toLower
  if name = "html".toList then .ok html
  else if name = "plain".toList || name = "text".toList then .ok plain
  else .error (.invalidArgument (.unknownMode name))

end OutputMode

end EscapeOnce
