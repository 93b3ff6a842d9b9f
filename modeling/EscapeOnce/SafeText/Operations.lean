import EscapeOnce.Brace.Substitution
import EscapeOnce.Percent.Substitution
import EscapeOnce.Text.Casing
import EscapeOnce.Text.Replace

/-!
# Operations on safe texts

An operand of these operations is a value.  A safe one is taken as it is and raw text is escaped;
what other kinds an operation accepts is its own matter, and most accept none.

Templates are safe texts too: the characters of the template are trusted, and each argument is
escaped as it is filled in.

A repetition can be too large to exist.  `SafeText.repeat?` gives nothing then; it is the only
operation that fails for want of room.
-/

namespace EscapeOnce

/-- The form in which a value joins safe text: a safe text as it is, raw text escaped; other kinds
have none. -/
def Value.operandText? : Value → Option Text
  | .safe s => some s.buffer
  | .str t => some (Entity.escape t)
  | _ => none

/-- The form in which a value joins safe text, where the operation needs one. -/
def Value.operandText (v : Value) (expected : Expectation) : Except MarkupError Text :=
  match v.operandText? with
  | some t => .ok t
  | none => .error (.inputType expected v.typeName)

namespace SafeText

/-! ## Joining -/

/-- The safe text followed by an operand. -/
def concat (s : SafeText) (other : Value) : Except MarkupError SafeText :=
  match other.operandText? with
  | some t => .ok (trusted (s.buffer ++ t))
  | none => .error (.unsupported "SafeText".toList other.typeName)

/-- The safe text preceded by an operand. -/
def rconcat (s : SafeText) (other : Value) : Except MarkupError SafeText :=
  match other.operandText? with
  | some t => .ok (trusted (t ++ s.buffer))
  | none => .error (.unsupported other.typeName "SafeText".toList)

/-- Two operands one after the other, at least one of them safe. -/
def concatValues : Value → Value → Except MarkupError SafeText
  | .safe a, b => a.concat b
  | a, .safe b => b.rconcat a
  | a, b => .error (.unsupported a.typeName b.typeName)

/-- The safe text followed by raw text. -/
def appendRaw (s : SafeText) (t : Text) : SafeText := s ++ escape t

/-- Raw text followed by the safe text. -/
def prependRaw (t : Text) (s : SafeText) : SafeText := escape t ++ s

/-- Safe texts one after the other. -/
def collect (parts : List SafeText) : SafeText := trusted (parts.flatMap buffer)

/-- The operands with the safe text between them. -/
def join (separator : SafeText) (parts : List Value) : Except MarkupError SafeText := do
  let texts ← parts.mapM (·.operandText .joinElement)
  return trusted (separator.buffer.intercalate texts)

/-! ## Repeating -/

/-- The largest size of a text in bytes: the largest signed integer of 64 bits. -/
def sizeLimit : Nat := 9223372036854775807

/-- The safe text `n` times over; an empty text is not counted out. -/
def times (s : SafeText) (n : Nat) : SafeText :=
  if s.buffer.isEmpty then empty else trusted (List.replicate n s.buffer).flatten

/-- The safe text `n` times over, unless that is larger than a text can be. -/
def repeat? (s : SafeText) (n : Nat) : Option SafeText :=
  if s.utf8Size * n ≤ sizeLimit then some (s.times n) else none

/-! ## Templates -/

/-- Fills in the fields of the safe text. -/
def format (s : SafeText) (args : List Value) (named : Dict Value) : Except MarkupError SafeText :=
  (Brace.substitute s.buffer args named).map trusted

/-- Fills in the percent directives of the safe text. -/
def interpolate (s : SafeText) (args : Arguments) : Except MarkupError SafeText :=
  (Percent.substitute s.buffer args).map trusted

/-! ## Searching and replacing, in escaped form -/

/-- The safe text begins with an operand. -/
def startsWith (s : SafeText) (probe : Value) : Except MarkupError Bool := do
  return (← probe.operandText .startProbe).isPrefixOf s.buffer

/-- The safe text ends with an operand. -/
def endsWith (s : SafeText) (probe : Value) : Except MarkupError Bool := do
  return (← probe.operandText .endProbe).isSuffixOf s.buffer

/-- Replaces occurrences of one operand by another, at most `limit` of them if there is a limit. -/
def replace (s : SafeText) (old new : Value) (limit : Option Nat) :
    Except MarkupError SafeText := do
  let old ← old.operandText .pattern
  let new ← new.operandText .replacement
  return trusted (Text.replace old new limit s.buffer)

/-! ## Case -/

/-- The safe text in lower case. -/
def lower (s : SafeText) : SafeText := trusted s.buffer.lower

/-- The safe text in upper case, the letters of its entities included. -/
def upper (s : SafeText) : SafeText := trusted s.buffer.upper

/-- The first character in upper case and the rest in lower case. -/
def capitalize (s : SafeText) : SafeText := trusted s.buffer.capitalize

end SafeText

end EscapeOnce
