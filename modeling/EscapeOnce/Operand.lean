import EscapeOnce.Value.Access
import EscapeOnce.Value.Conversion

/-!
# Operands of a substitution

A template never sees a raw value.  Each argument is first made an `Operand`, and every text that a
template can get out of an operand is fit for a page: the buffer of a safe text is taken as it is,
a number needs no escaping, and all texts of any other value come out escaped.  An item of an
operand is an operand again, so a safe text found deep inside a value still counts as safe, and a
raw one is still escaped.
-/

namespace EscapeOnce

/-- An argument as a template sees it. -/
inductive Operand where
  /-- The buffer of a safe text. -/
  | trusted (buffer : Text)
  /-- A number, to which numeric layout applies. -/
  | number (n : Number)
  /-- Any other value; its texts are escaped. -/
  | quoted (v : Value)

namespace Operand

/-- The operand that a value becomes. -/
def ofValue : Value → Operand
  | .safe s => trusted s.buffer
  | .int i => number (.int i)
  | .float x => number (.float x)
  | v => quoted v

/-- The name of the kind of the underlying value. -/
def typeName : Operand → Text
  | trusted _ => "SafeText".toList
  | number n => n.typeName
  | quoted v => v.typeName

/-- The text to substitute. -/
def toText : Operand → Except MarkupError Text
  | trusted buffer => .ok buffer
  | number n => .ok n.toText
  | quoted v => v.stringify.map Entity.escape

/-- A safe buffer in quoted form.  The buffer is escaped already, and the quotes around it are
written as entities. -/
def trustedRepresentation (buffer : Text) : Text :=
  buffer.quoted.flatMap fun c => if c = '"' then Entity.escapeChar c else [c]

/-- The diagnostic form to substitute. -/
def toRepresentation : Operand → Except MarkupError Text
  | trusted buffer => .ok (trustedRepresentation buffer)
  | number n => .ok n.toText
  | quoted v => v.representation.map Entity.escape

/-- The number that an operand is, if it is one. -/
def number? : Operand → Option Number
  | number n => some n
  | _ => none

/-- The raw value behind an operand whose texts are escaped. -/
def raw? : Operand → Option Value
  | quoted v => some v
  | _ => none

/-- The item of an operand under a key.  Safe texts and numbers have none. -/
def item (o : Operand) (key : FieldKey) : Except MarkupError Operand :=
  match o with
  | quoted v => (MarkupError.ofFormat (v.item key)).map ofValue
  | _ => .error (.format (.noField o.typeName key.toText))

/-- The operand reached by following keys one after the other. -/
def follow (o : Operand) : List FieldKey → Except MarkupError Operand
  | [] => .ok o
  | key :: keys => do (← o.item key).follow keys

end Operand

end EscapeOnce
