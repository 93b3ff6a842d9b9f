import EscapeOnce.Entity
import EscapeOnce.Text.Quoted

/-!
# Safe texts

A safe text is text that is already escaped and may be written into a page as it is.  It is made in
two ways only: by escaping raw text, or by declaring a text trusted.  Every operation on safe texts
escapes a raw operand exactly once on its way in and never escapes a safe one again.

Equality and order are those of the buffer.
-/

namespace EscapeOnce

/-- Text that is already escaped. -/
structure SafeText where
  /-- Declares a text trusted, without escaping it. -/
  trusted ::
  buffer : Text
  deriving DecidableEq

namespace SafeText

/-- The safe text without characters. -/
def empty : SafeText := trusted []

/-- The safe form of raw text. -/
def escape (t : Text) : SafeText := trusted (Entity.escape t)

/-- The number of bytes of the UTF-8 form. -/
def utf8Size (s : SafeText) : Nat := s.buffer.utf8Size

/-- The order of safe texts is that of their buffers. -/
def compare (a b : SafeText) : Ordering := a.buffer.compare b.buffer

/-- Two safe texts, one after the other. -/
def append (a b : SafeText) : SafeText := trusted (a.buffer ++ b.buffer)

instance : Append SafeText := ⟨append⟩

/-- The diagnostic form, which is not escaped and not meant for a page. -/
def representation (s : SafeText) : Text := "<SafeText ".toList ++ s.buffer.quoted ++ ['>']

end SafeText

end EscapeOnce
