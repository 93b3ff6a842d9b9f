import EscapeOnce.Entity
import EscapeOnce.Text.Slice

/-!
# Writing an escaped text

Escaped text is written in two passes over the bytes of the raw text.  The first counts how much
longer the escaped form will be, so that room can be made at once; if it is no longer at all, the
raw text is its own escaped form and nothing is written.  The second goes from one markup byte to
the next.  It copies the stretch of text in between as it is and writes the entity for the byte.

Every markup character is a single byte, and no byte of a longer character looks like one, so the
passes need not know where characters begin.  A stretch that began or ended inside a character could
not be copied; the results below are optional for that reason alone.
-/

namespace EscapeOnce.Entity

/-- The entity for a markup character, found by its byte. -/
def ofByte? (b : UInt8) : Option Text :=
  table.findSome? fun (markup, entity) => if markup.toUInt8 = b then some entity else none

/-- The first pass: the number of bytes by which the entities are longer than what they stand
for. -/
def byteGrowth (t : Text) : Nat :=
  (t.utf8.filterMap ofByte?).foldr (fun entity n => entity.utf8Size - 1 + n) 0

/-- The second pass over `t`, from the byte at `i` on.  Everything before `last` has been written to
`dest`; from there up to `i` no markup has been met. -/
def writeFrom (t : Text) : List UInt8 → (i last : Nat) → (dest : Text) → Option Text
  | [], _, last, dest => (t.dropBytes? last).map (dest ++ ·)
  | b :: bytes, i, last, dest =>
    match ofByte? b with
    | some entity => do
      let run ← t.slice? last i
      writeFrom t bytes (i + 1) (i + 1) (dest ++ run ++ entity)
    | none => writeFrom t bytes (i + 1) last dest

/-- Writes the escaped form of a text behind a text that is there already. -/
def escapeInto? (dest t : Text) : Option Text := writeFrom t t.utf8 0 0 dest

/-- The escaped form of a text, which is the text itself if the first pass finds no markup. -/
def escapeBytes? (t : Text) : Option Text :=
  if byteGrowth t = 0 then some t else escapeInto? [] t

end EscapeOnce.Entity
