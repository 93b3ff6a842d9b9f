import EscapeOnce.Text

/-!
# Stretches of a text by bytes

Whoever goes over the UTF-8 form of a text byte by byte knows a place in the text as the number of
bytes before it.  Not every such number is a place between two characters, and a stretch of text
exists only between two that are.  `Text.slice?` gives the stretch, or nothing where there is none.
-/

namespace EscapeOnce.Text

/-- The text behind the first `n` bytes, if a character ends there. -/
def dropBytes? : Nat → Text → Option Text
  | 0, t => some t
  | _ + 1, [] => none
  | n + 1, c :: t => if c.utf8Size ≤ n + 1 then dropBytes? (n + 1 - c.utf8Size) t else none

/-- The text of the first `n` bytes, if a character ends there. -/
def takeBytes? : Nat → Text → Option Text
  | 0, _ => some []
  | _ + 1, [] => none
  | n + 1, c :: t =>
    if c.utf8Size ≤ n + 1 then (takeBytes? (n + 1 - c.utf8Size) t).map (c :: ·) else none

/-- The stretch of a text from one number of bytes to another. -/
def slice? (t : Text) (start stop : Nat) : Option Text :=
  if start ≤ stop then (t.dropBytes? start).bind (takeBytes? (stop - start)) else none

end EscapeOnce.Text
