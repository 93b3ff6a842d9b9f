import EscapeOnce.Brace.Substitution
import EscapeOnce.Percent.Substitution

/-!
# Substitution without escaping

The same two placeholder styles, filled in with raw texts.  Templates are read as before, arguments
are looked up and numbered as before, and numbers have their usual layout.  But a text is the text,
the diagnostic form or the character of the value as it is, and it is cut and padded by counting its
characters.  Nothing here knows of markup.

This is what a template means.  What the escaping substitution adds is said by comparing the two.
-/

namespace EscapeOnce

/-- The number that a value is, if it is one. -/
def Value.number? : Value → Option Number
  | .int i => some (.int i)
  | .float x => some (.float x)
  | _ => none

namespace Specifier

/-- Lays out a raw text, each character of which shows as one. -/
def layoutRaw (s : Specifier) (t typeName : Text) : Except FormatError Text :=
  s.layoutPieces (t.map fun c => [c]) typeName

/-- Lays out the raw character with a given code. -/
def layoutCharacterRaw (s : Specifier) (code : Int64) : Except FormatError Text :=
  match characterOfCode? code with
  | some c => .ok (padded s.width 1 (s.fill.getD ' ') (s.align.getD .left) [c])
  | none => .error (.badSpecifier .characterOutOfRange)

/-- Lays out a number, or the raw character with a given code. -/
def layoutNumberRaw (s : Specifier) (n : Number) : Except FormatError Text :=
  match s.kind, n with
  | some .character, .int code =>
    if s.precision.isSome then .error (.badSpecifier .precisionOnInteger)
    else if s.grouping then .error (.badSpecifier .groupingOnBase)
    else s.layoutCharacterRaw code
  | _, _ => s.layoutNumber n

end Specifier

/-! ## Fields -/

/-- The raw text of a value under a conversion and a specifier. -/
def Value.renderRaw (v : Value) (conversion : Option Form) (s : Specifier) :
    Except MarkupError Text :=
  match conversion, v.number? with
  | none, some n => MarkupError.ofFormat (s.layoutNumberRaw n)
  | some .representation, _ => do
    let t ← v.representation
    MarkupError.ofFormat (s.layoutRaw t v.typeName)
  | _, _ => do
    let t ← v.stringify
    MarkupError.ofFormat (s.layoutRaw t v.typeName)

namespace Brace

/-- The raw text of a field on its argument. -/
def renderFieldRaw (value : Value) (field : Field) : Except MarkupError Text := do
  let reached ← MarkupError.ofFormat (value.follow field.accessors)
  reached.renderRaw field.conversion field.specifier

/-- Fills in a template with positional and named arguments, escaping nothing. -/
def substituteRaw (template : Text) (args : List Value) (named : Dict Value) :
    Except MarkupError Text :=
  fill renderFieldRaw args named .unset (Field.script template)

end Brace

/-! ## Directives -/

/-- The character that a value stands for: the one with its code, or the only one of a raw text. -/
def Value.character (v : Value) : Except MarkupError Char :=
  match v with
  | .int code =>
    match characterOfCode? code with
    | some c => .ok c
    | none => .error (.format (.badSpecifier .characterOutOfRange))
  | .str [c] => .ok c
  | _ => .error (.inputType .character v.typeName)

/-- The raw text of a value under a directive. -/
def Directive.renderRaw (d : Directive) (v : Value) : Except MarkupError Text :=
  if d.conversion = 's' then do
    let t ← v.stringify
    MarkupError.ofFormat (d.textSpecifier.layoutRaw t v.typeName)
  else if d.conversion = 'r' || d.conversion = 'a' then do
    let t ← v.representation
    MarkupError.ofFormat (d.textSpecifier.layoutRaw t v.typeName)
  else if d.conversion = 'c' then do
    let c ← v.character
    MarkupError.ofFormat (d.textSpecifier.layoutRaw [c] "str".toList)
  else match Directive.numberKind? d.conversion, v.number? with
    | some kind, some n => MarkupError.ofFormat (d.layoutNumber kind n)
    | some _, none => .error (.format (.typeMismatch d.conversion v.typeName))
    | none, _ => .error (.format (.unsupportedConversion d.conversion))

namespace Percent

/-- The raw text of a directive on its argument. -/
def renderDirectiveRaw (value : Value) (d : Directive) : Except MarkupError Text :=
  d.renderRaw value

/-- Fills in a template with its arguments, escaping nothing. -/
def substituteRaw (template : Text) (args : Arguments) : Except MarkupError Text :=
  fill renderDirectiveRaw args (Directive.script template)

end Percent

end EscapeOnce
