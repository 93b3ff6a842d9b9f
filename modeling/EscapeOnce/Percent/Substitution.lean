import EscapeOnce.Operand
import EscapeOnce.Percent.Directive
import EscapeOnce.Specifier.Layout

/-!
# Filling in the directives of a template

The arguments of a percent template are either positional or named.  Directives without a key take
positional arguments in turn, each exactly one, and none may be left over at the end.  With named
arguments a directive with a key looks its value up, and one without a key stands for the whole
dictionary.

`Percent.fill` runs over a template that has been read, with the rendering of one directive as a
parameter; `Percent.substitute` is the one that escapes.
-/

namespace EscapeOnce

/-- The arguments of a percent template. -/
inductive Arguments where
  | positional (values : List Value)
  | named (entries : Dict Value)

/-- A dictionary stands for named arguments, and any other value for one positional argument. -/
def Arguments.ofValue : Value → Arguments
  | .map entries => named entries
  | v => positional [v]

namespace Directive

/-- The specifier by which a directive lays out a text: right-aligned unless flagged. -/
def textSpecifier (d : Directive) : Specifier :=
  { Specifier.plain with
    align := some (if d.left then .left else .right)
    width := d.width
    precision := d.precision }

/-- The specifier by which a directive lays out a number; the left flag overrides the zero flag. -/
def numberSpecifier (d : Directive) (kind : Kind) : Specifier :=
  { Specifier.plain with
    align := if d.left then some .left else none
    sign := d.sign
    alternate := d.alternate
    zero := d.zero && !d.left
    width := d.width
    precision := d.precision
    kind := some kind }

/-- The kind of number that a conversion lays out, if it lays out numbers. -/
def numberKind? (conversion : Char) : Option Kind :=
  if conversion = 'i' || conversion = 'u' then some .decimal
  else match Kind.ofLetter? conversion with
    | some .text | some .binary | some .character | some .percent | none => none
    | some kind => some kind

/-- The integer part of a number, if it has one of 64 bits. -/
def wholePart (x : Binary64) : Except FormatError Int64 :=
  match x.truncate?.bind int64? with
  | some i => .ok i
  | none => .error (.badSpecifier .notAnInteger)

/-- The number that a conversion lays out: the decimal ones cut a fraction off. -/
def numberFor (kind : Kind) : Number → Except FormatError Number
  | .float x => if kind = .decimal then (wholePart x).map .int else .ok (.float x)
  | n => .ok n

/-- Lays out a number under a numeric conversion. -/
def layoutNumber (d : Directive) (kind : Kind) (n : Number) : Except FormatError Text := do
  let n ← numberFor kind n
  if d.precision.isSome && kind.isIntegral then .error (.badSpecifier .precisionOnDirective)
  else (d.numberSpecifier kind).layoutNumber n

/-- The character that an operand stands for: the one with its code, or the only one of a raw
text. -/
def characterOf (o : Operand) : Except MarkupError Char :=
  match o with
  | .number (.int code) =>
    match characterOfCode? code with
    | some c => .ok c
    | none => .error (.format (.badSpecifier .characterOutOfRange))
  | .quoted (.str [c]) => .ok c
  | _ => .error (.inputType .character o.typeName)

/-- The text of an operand under a directive. -/
def render (d : Directive) (o : Operand) : Except MarkupError Text :=
  if d.conversion = 's' then do
    let t ← o.toText
    MarkupError.ofFormat (d.textSpecifier.layoutText t o.typeName)
  else if d.conversion = 'r' || d.conversion = 'a' then do
    let t ← o.toRepresentation
    MarkupError.ofFormat (d.textSpecifier.layoutText t o.typeName)
  else if d.conversion = 'c' then do
    let c ← characterOf o
    MarkupError.ofFormat (d.textSpecifier.layoutText (Entity.escapeChar c) "str".toList)
  else match numberKind? d.conversion, o.number? with
    | some kind, some n => MarkupError.ofFormat (d.layoutNumber kind n)
    | some _, none => .error (.format (.typeMismatch d.conversion o.typeName))
    | none, _ => .error (.format (.unsupportedConversion d.conversion))

end Directive

namespace Percent

/-- The value that a directive stands for, and the positional arguments left behind it. -/
def argument : Arguments → Option Text → Except FormatError (Value × Arguments)
  | .named entries, some key =>
    match Dict.get? entries key with
    | some v => .ok (v, .named entries)
    | none => .error (.missingKey key)
  | .named entries, none => .ok (.map entries, .named entries)
  | .positional _, some _ => .error .notAMapping
  | .positional [], none => .error .notEnoughArguments
  | .positional (v :: rest), none => .ok (v, .positional rest)

/-- No positional argument is left over. -/
def finish : Arguments → Except FormatError Unit
  | .positional (_ :: _) => .error .tooManyArguments
  | _ => .ok ()

/-- Fills in a template that has been read, each directive by `render`. -/
def fill (render : Value → Directive → Except MarkupError Text) :
    Arguments → Script Directive → Except MarkupError Text
  | args, .done => do
    MarkupError.ofFormat (finish args)
    return []
  | _, .fault error => .error (.format error)
  | args, .literal c rest => do
    let others ← fill render args rest
    return c :: others
  | args, .directive d rest => do
    let (value, args) ← MarkupError.ofFormat (argument args d.key)
    let first ← render value d
    let others ← fill render args rest
    return first ++ others

/-- The text of a directive on its argument, fit for a page. -/
def renderDirective (value : Value) (d : Directive) : Except MarkupError Text :=
  d.render (Operand.ofValue value)

/-- Fills in a template with its arguments. -/
def substitute (template : Text) (args : Arguments) : Except MarkupError Text :=
  fill renderDirective args (Directive.script template)

end Percent

end EscapeOnce
