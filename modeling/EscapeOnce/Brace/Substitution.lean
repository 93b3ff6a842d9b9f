import EscapeOnce.Brace.Field
import EscapeOnce.Operand
import EscapeOnce.Specifier.Layout

/-!
# Filling in the fields of a template

Fields are filled in from the left.  A field looks up its argument, follows its accessors and lays
out what it reaches.  Fields without a name of their own take the positional arguments in turn, and
a template that numbers some fields itself cannot leave others to be numbered.

`Brace.fill` runs over a template that has been read, with the rendering of one field as a
parameter, so that what it does to the rest of the template can be said of any rendering.
`Brace.substitute` is the one that escapes.
-/

namespace EscapeOnce

namespace Operand

/-- The text of an operand under a conversion and a specifier.  A number without a conversion has
the layout of a number, and everything else that of a text. -/
def render (o : Operand) (conversion : Option Form) (s : Specifier) :
    Except MarkupError Text :=
  match conversion, o.number? with
  | none, some n => MarkupError.ofFormat (s.layoutNumber n)
  | some .representation, _ => do
    let t ← o.toRepresentation
    MarkupError.ofFormat (s.layoutText t o.typeName)
  | _, _ => do
    let t ← o.toText
    MarkupError.ofFormat (s.layoutText t o.typeName)

end Operand

namespace Brace

/-- How the fields of a template have been numbered so far. -/
inductive Numbering where
  | unset
  /-- By turns; the next argument to take. -/
  | automatic (next : Nat)
  /-- By the template. -/
  | manual
  deriving DecidableEq

/-- The position of the next argument taken by turns. -/
def Numbering.next : Numbering → Except FormatError Nat
  | unset => .ok 0
  | automatic next => .ok next
  | manual => .error .mixedNumbering

/-- The positional argument at an index. -/
def positional (args : List Value) (index : Nat) : Except FormatError Value :=
  match args[index]? with
  | some v => .ok v
  | none => .error (.indexOutOfRange index)

/-- The argument of a field, and the numbering behind it. -/
def argument (args : List Value) (named : Dict Value) (numbering : Numbering) :
    ArgumentName → Except FormatError (Value × Numbering)
  | .name key =>
    match Dict.get? named key with
    | some v => .ok (v, numbering)
    | none => .error (.missingKey key)
  | .automatic => do
    let index ← numbering.next
    return (← positional args index, .automatic (index + 1))
  | .index index =>
    match numbering with
    | .automatic _ => .error .mixedNumbering
    | _ => do return (← positional args index, .manual)

/-- Fills in a template that has been read, each field by `render`. -/
def fill (render : Value → Field → Except MarkupError Text) (args : List Value)
    (named : Dict Value) : Numbering → Script Field → Except MarkupError Text
  | _, .done => .ok []
  | _, .fault error => .error (.format error)
  | numbering, .literal c rest => do
    let others ← fill render args named numbering rest
    return c :: others
  | numbering, .directive field rest => do
    let (value, numbering) ← MarkupError.ofFormat (argument args named numbering field.argument)
    let first ← render value field
    let others ← fill render args named numbering rest
    return first ++ others

/-- The text of a field on its argument, fit for a page. -/
def renderField (value : Value) (field : Field) : Except MarkupError Text := do
  let reached ← (Operand.ofValue value).follow field.accessors
  reached.render field.conversion field.specifier

/-- Fills in a template with positional and named arguments. -/
def substitute (template : Text) (args : List Value) (named : Dict Value) :
    Except MarkupError Text :=
  fill renderField args named .unset (Field.script template)

end Brace

/-- The text of one value, as a field with this conversion and specifier would have it.  Without
either it is the safe form of the value. -/
def formatField (value : Value) (conversion : Option Form) (specifier : Text) :
    Except MarkupError SafeText :=
  if conversion.isNone && specifier.isEmpty then
    value.toSafe
  else do
    let s ← MarkupError.ofFormat (Specifier.parse specifier)
    let t ← (Operand.ofValue value).render conversion s
    return .trusted t

end EscapeOnce
