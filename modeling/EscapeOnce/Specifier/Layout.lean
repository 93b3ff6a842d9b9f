import EscapeOnce.Entity.Visible
import EscapeOnce.Number
import EscapeOnce.Specifier

/-!
# Laying out a value

A specifier is applied to an escaped text by `Specifier.layoutText` and to a number by
`Specifier.layoutNumber`.

Width and precision of a text count visible characters, so an entity is one character and is never
cut in two.  A number is laid out as a `Figure`: a sign, a base marker and a body, with padding
before, behind or, for numbers alone, between marker and body.
-/

namespace EscapeOnce

/-- How a gap is shared out between the two sides of a body; of an odd gap around a centred body the
larger half comes behind. -/
def Align.shares : Align → Nat → Nat × Nat
  | .left, gap => (0, gap)
  | .right, gap | .afterSign, gap => (gap, 0)
  | .center, gap => (gap / 2, gap - gap / 2)

/-- Pads a body that shows as `visible` characters to a width. -/
def padded (width visible : Nat) (fill : Char) (align : Align) (body : Text) : Text :=
  let (before, behind) := align.shares (width - visible)
  List.replicate before fill ++ body ++ List.replicate behind fill

/-- The character with a given code. -/
def characterOfCode? (code : Int64) : Option Char :=
  let n := code.toInt.toNat
  if 0 ≤ code.toInt && (n < 0xD800 || 0xDFFF < n && n < 0x110000) then some (Char.ofNat n) else none

/-- A number in parts. -/
structure Figure where
  negative : Bool
  /-- The marker of the base, written only if it is asked for. -/
  marker : Text
  /-- The numeral of the absolute value. -/
  body : Text
  deriving DecidableEq

namespace Kind

/-- The kind lays out integers only. -/
def isIntegral : Kind → Bool
  | decimal | hex | upperHex | octal | binary | character => true
  | _ => false

/-- The kind writes letters in upper case. -/
def isUpper : Kind → Bool
  | upperHex | upperFixed | upperExponential | upperGeneral => true
  | _ => false

/-- The kind allows no commas: another base than ten, or a character. -/
def refusesGrouping : Kind → Bool
  | hex | upperHex | octal | binary | character => true
  | _ => false

/-- The text in the case of the kind. -/
def cased (kind : Kind) (t : Text) : Text := Numeral.cased kind.isUpper t

end Kind

namespace Specifier

/-! ## Texts -/

/-- The pieces of a text that the precision leaves. -/
def kept (s : Specifier) (pieces : List Text) : List Text :=
  match s.precision with
  | some limit => pieces.take limit
  | none => pieces

/-- The fill character of a text. -/
def textFill (s : Specifier) : Char := s.fill.getD (if s.zero then '0' else ' ')

/-- The text of pieces, cut and padded. -/
def fitted (s : Specifier) (pieces : List Text) : Text :=
  padded s.width (s.kept pieces).length s.textFill (s.align.getD .left) (s.kept pieces).flatten

/-- Lays out a text that is given in pieces, each of which shows as one character; `typeName` is
the name of the kind of value that the text came from. -/
def layoutPieces (s : Specifier) (pieces : List Text) (typeName : Text) : Except FormatError Text :=
  match s.kind with
  | none | some .text =>
    if s.sign.isSome then
      .error (.badSpecifier .signOnText)
    else if s.alternate || s.grouping || s.align == some .afterSign then
      .error (.badSpecifier .numericOptionOnText)
    else
      .ok (s.fitted pieces)
  | some kind => .error (.typeMismatch kind.letter typeName)

/-- Lays out an escaped text by its visible characters. -/
def layoutText (s : Specifier) (t typeName : Text) : Except FormatError Text :=
  s.layoutPieces (Visible.tokens t) typeName

/-! ## Numbers -/

/-- The figure of an integer in a given base. -/
def integerFigure (kind : Kind) (base : Nat) (marker : Text) (i : Int64) : Figure where
  negative := i.toInt < 0
  marker := marker
  body := kind.cased (Nat.toDigits base i.toInt.natAbs)

/-- The figure of a floating-point number with a given body; an undefined number has no sign. -/
def floatFigure (x : Binary64) (body : Text) : Figure where
  negative := x.isNegative && !x.isNaN
  marker := []
  body := body

/-- The body of a floating-point number under a kind that lays out any number, unless it would have
too many places. -/
def floatBody? (s : Specifier) (kind : Kind) (x : Binary64) : Option Text :=
  let precision := s.precision.getD 6
  let percent := if kind = .percent then ['%'] else []
  if x.isFinite then
    match kind with
    | .exponential | .upperExponential => (x.exponential? precision).map kind.cased
    | .general | .upperGeneral => x.generalText? precision kind.isUpper s.alternate false
    | .percent => ((x.abs.mul (Binary64.ofInt 100)).fixed? precision).map (· ++ percent)
    | _ => x.fixed? precision
  else
    some (kind.cased x.nonFinite ++ percent)

/-- The figure of a number under a specifier that allows it, unless it would have too many
places. -/
def figure? (s : Specifier) (n : Number) : Option Figure :=
  match s.kind, n with
  | none, .int i => some (integerFigure .decimal 10 [] i)
  | some .decimal, .int i => some (integerFigure .decimal 10 [] i)
  | some .hex, .int i => some (integerFigure .hex 16 ['0', 'x'] i)
  | some .upperHex, .int i => some (integerFigure .upperHex 16 ['0', 'X'] i)
  | some .octal, .int i => some (integerFigure .octal 8 ['0', 'o'] i)
  | some .binary, .int i => some (integerFigure .binary 2 ['0', 'b'] i)
  | none, .float x =>
    match s.precision with
    | some precision => (x.generalText? precision false s.alternate true).map (floatFigure x)
    | none => some (floatFigure x x.abs.toText)
  | some kind, n => (s.floatBody? kind n.toBinary64).map (floatFigure n.toBinary64)

/-- The sign of a figure. -/
def signText (s : Specifier) (f : Figure) : Text :=
  if f.negative then ['-']
  else match s.sign with
    | some .plus => ['+']
    | some .space => [' ']
    | _ => []

/-- The sign and the marker of a figure. -/
def headText (s : Specifier) (f : Figure) : Text :=
  s.signText f ++ (if s.alternate then f.marker else [])

/-- The body of a figure, with the commas that the specifier asks for. -/
def bodyText (s : Specifier) (f : Figure) : Text :=
  if s.grouping then Numeral.grouped f.body else f.body

/-- A zero flag pads a number after the sign, unless there is an alignment. -/
def padsZeros (s : Specifier) : Bool := s.zero && s.align.isNone

/-- The alignment of a number. -/
def numberAlign (s : Specifier) : Align :=
  if s.padsZeros then .afterSign else s.align.getD .right

/-- The fill character of a number. -/
def numberFill (s : Specifier) : Char := s.fill.getD (if s.padsZeros then '0' else ' ')

/-- Puts the parts of a figure together and pads them. -/
def arrange (s : Specifier) (f : Figure) : Text :=
  let head := s.headText f
  let body := s.bodyText f
  let visible := head.length + body.length
  if s.numberAlign = .afterSign then
    head ++ List.replicate (s.width - visible) s.numberFill ++ body
  else
    padded s.width visible s.numberFill s.numberAlign (head ++ body)

/-- Lays out the character with a given code. -/
def layoutCharacter (s : Specifier) (code : Int64) : Except FormatError Text :=
  match characterOfCode? code with
  | some c => .ok (padded s.width 1 (s.fill.getD ' ') (s.align.getD .left) (Entity.escapeChar c))
  | none => .error (.badSpecifier .characterOutOfRange)

/-- Lays out a number that the specifier allows as its figure. -/
def layoutFigure (s : Specifier) (n : Number) : Except FormatError Text :=
  match s.figure? n with
  | some f => .ok (s.arrange f)
  | none => .error .tooManyPlaces

/-- Lays out a number. -/
def layoutNumber (s : Specifier) (n : Number) : Except FormatError Text :=
  if s.kind.any Kind.isIntegral && s.precision.isSome then
    .error (.badSpecifier .precisionOnInteger)
  else if s.kind.any Kind.refusesGrouping && s.grouping then
    .error (.badSpecifier .groupingOnBase)
  else
    match s.kind, n with
    | some .text, _ => .error (.badSpecifier .textOnNumber)
    | some .character, .int code => s.layoutCharacter code
    | some kind, .float _ =>
      if kind.isIntegral then .error (.typeMismatch kind.letter n.typeName)
      else s.layoutFigure n
    | _, _ => s.layoutFigure n

end Specifier

end EscapeOnce
