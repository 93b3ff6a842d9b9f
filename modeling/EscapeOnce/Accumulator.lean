import EscapeOnce.OutputMode
import EscapeOnce.Value.Conversion

/-!
# Accumulating a page

An accumulator holds the fragments of one page in the order in which they came.  In html mode raw
fragments are escaped on their way in and the result is safe text; in plain mode nothing is
escaped.  A null adds no fragment.  An appending that fails leaves the accumulator as it was, and
so does one of many values of which one fails.
-/

namespace EscapeOnce

/-- The finished content of an accumulator. -/
inductive Rendered where
  | html (s : SafeText)
  | plain (t : Text)
  deriving DecidableEq

namespace Rendered

/-- The content as text. -/
def toText : Rendered → Text
  | html s => s.buffer
  | plain t => t

/-- The content as safe text, if it is markup. -/
def toSafe? : Rendered → Option SafeText
  | html s => some s
  | plain _ => none

/-- The content as a value: safe text if it is markup, raw text otherwise. -/
def toValue : Rendered → Value
  | html s => .safe s
  | plain t => .str t

end Rendered

/-- The fragments of a page and how they are treated. -/
structure Accumulator where
  mode : OutputMode
  fragments : List Text
  deriving DecidableEq

namespace Accumulator

/-- An accumulator without fragments. -/
def empty (mode : OutputMode) : Accumulator := ⟨mode, []⟩

/-- The fragment that a value makes, if it makes one. -/
def fragment? (mode : OutputMode) (v : Value) : Except MarkupError (Option Text) :=
  match mode, v with
  | _, .null => .ok none
  | .html, .safe s => .ok (some s.buffer)
  | .html, v => v.stringify.map fun t => some (Entity.escape t)
  | .plain, v => v.stringify.map some

/-- Adds the fragment of a value. -/
def append (a : Accumulator) (v : Value) : Except MarkupError Accumulator := do
  let fragment ← fragment? a.mode v
  return { a with fragments := a.fragments ++ fragment.toList }

/-- Adds the fragments of several values, or none of them if one fails. -/
def appendAll (a : Accumulator) : List Value → Except MarkupError Accumulator
  | [] => .ok a
  | v :: rest => do (← a.append v).appendAll rest

/-- The text of all fragments in order. -/
def toText (a : Accumulator) : Text := a.fragments.flatten

/-- The finished content.  The fragments are kept, and more may be added. -/
def finalize (a : Accumulator) : Rendered :=
  match a.mode with
  | .html => .html (.trusted a.toText)
  | .plain => .plain a.toText

/-- The diagnostic form, which tells the number of fragments. -/
def describe (a : Accumulator) : Text :=
  "<OutputAccumulator: ".toList ++ Numeral.decimal a.fragments.length ++ " chunks>".toList

end Accumulator

end EscapeOnce
