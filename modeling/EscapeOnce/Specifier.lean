import EscapeOnce.Error

/-!
# Format specifiers

A specifier says how one value is laid out.  Its text has the form

    [[fill]align][sign][#][0][width][,][.precision][kind]

with every part optional.  The parts are read from the left by one small reader each, which takes
its part off the text and leaves the rest.  Two points decide what a text means.  A second
character that is an alignment makes the first one the fill, whatever that is.  And a zero in front
of the width is the zero flag, never a digit of the width.

`Specifier.print` is the other direction.
-/

namespace EscapeOnce

/-- Where the padding goes. -/
inductive Align where
  | left
  | right
  | center
  /-- Between the sign and the digits. -/
  | afterSign
  deriving DecidableEq

/-- The alignment that a character stands for. -/
def Align.ofChar? (c : Char) : Option Align :=
  if c = '<' then some left
  else if c = '>' then some right
  else if c = '^' then some center
  else if c = '=' then some afterSign
  else none

/-- The character that stands for an alignment. -/
def Align.toChar : Align → Char
  | left => '<'
  | right => '>'
  | center => '^'
  | afterSign => '='

/-- How a number that is not negative is signed. -/
inductive Sign where
  | minus
  | plus
  | space
  deriving DecidableEq

/-- The sign option that a character stands for. -/
def Sign.ofChar? (c : Char) : Option Sign :=
  if c = '-' then some minus
  else if c = '+' then some plus
  else if c = ' ' then some space
  else none

/-- The character that stands for a sign option. -/
def Sign.toChar : Sign → Char
  | minus => '-'
  | plus => '+'
  | space => ' '

/-- What a value is laid out as. -/
inductive Kind where
  | text
  | decimal
  | hex
  | upperHex
  | octal
  | binary
  | character
  | fixed
  | upperFixed
  | exponential
  | upperExponential
  | general
  | upperGeneral
  | percent
  deriving DecidableEq

namespace Kind

/-- The letter of a kind. -/
def letter : Kind → Char
  | text => 's'
  | decimal => 'd'
  | hex => 'x'
  | upperHex => 'X'
  | octal => 'o'
  | binary => 'b'
  | character => 'c'
  | fixed => 'f'
  | upperFixed => 'F'
  | exponential => 'e'
  | upperExponential => 'E'
  | general => 'g'
  | upperGeneral => 'G'
  | percent => '%'

/-- Every kind. -/
def all : List Kind :=
  [text, decimal, hex, upperHex, octal, binary, character, fixed, upperFixed, exponential,
   upperExponential, general, upperGeneral, percent]

/-- The kind with a given letter. -/
def ofLetter? (c : Char) : Option Kind := all.find? fun kind => kind.letter == c

end Kind

/-- The layout of one value. -/
structure Specifier where
  fill : Option Char
  align : Option Align
  sign : Option Sign
  /-- Base marker for integers, kept zeros for the general form. -/
  alternate : Bool
  /-- Padding with zeros between sign and digits, unless an alignment is given. -/
  zero : Bool
  width : Nat
  /-- Commas between groups of three digits. -/
  grouping : Bool
  precision : Option Nat
  kind : Option Kind
  deriving DecidableEq

namespace Specifier

/-- The layout that changes nothing. -/
def plain : Specifier where
  fill := none
  align := none
  sign := none
  alternate := false
  zero := false
  width := 0
  grouping := false
  precision := none
  kind := none

/-- The largest width and the largest precision: the largest signed integer of 32 bits. -/
def widthLimit : Nat := 2147483647

/-! ## Reading -/

/-- Takes off a fill and an alignment, or an alignment alone. -/
def readAlign : Text → (Option Char × Option Align) × Text
  | c :: d :: t =>
    match Align.ofChar? d, Align.ofChar? c with
    | some align, _ => ((some c, some align), t)
    | none, some align => ((none, some align), d :: t)
    | none, none => ((none, none), c :: d :: t)
  | [c] =>
    match Align.ofChar? c with
    | some align => ((none, some align), [])
    | none => ((none, none), [c])
  | [] => ((none, none), [])

/-- Takes off a sign option. -/
def readSign : Text → Option Sign × Text
  | [] => (none, [])
  | c :: t =>
    match Sign.ofChar? c with
    | some sign => (some sign, t)
    | none => (none, c :: t)

/-- Takes off a given character, if it comes first. -/
def readFlag (flag : Char) : Text → Bool × Text
  | [] => (false, [])
  | c :: t => if c = flag then (true, t) else (false, c :: t)

/-- Takes off a run of digits, if there is one.  A number above the limit is a fault, reported with
the text `shown`. -/
def readNumber (shown t : Text) : Except FormatError (Option Nat × Text) :=
  let digits := Numeral.leadingDigits t
  if digits.isEmpty then .ok (none, t)
  else if widthLimit < Numeral.valueOf digits then .error (.badSpecifier (.tooManyDigits shown))
  else .ok (some (Numeral.valueOf digits), Numeral.afterDigits t)

/-- Takes off a point and a number, if there is a point; a point without a number is a fault of the
whole specifier. -/
def readPrecision (whole t : Text) : Except FormatError (Option Nat × Text) :=
  match t with
  | '.' :: rest => do
    match ← readNumber whole rest with
    | (some precision, rest) => return (some precision, rest)
    | (none, _) => .error (.badSpecifier (.malformed whole))
  | _ => .ok (none, t)

/-- Reads the end of a specifier: nothing, or the letter of a kind. -/
def readKind (whole t : Text) : Except FormatError (Option Kind) :=
  match t with
  | [] => .ok none
  | [c] =>
    match Kind.ofLetter? c with
    | some kind => .ok (some kind)
    | none => .error (.badSpecifier (.malformed whole))
  | _ => .error (.badSpecifier (.malformed whole))

/-- Reads a specifier. -/
def parse (whole : Text) : Except FormatError Specifier := do
  let ((fill, align), t) := readAlign whole
  let (sign, t) := readSign t
  let (alternate, t) := readFlag '#' t
  let (zero, t) := readFlag '0' t
  let (width, t) ← readNumber whole t
  let (grouping, t) := readFlag ',' t
  let (precision, t) ← readPrecision whole t
  let kind ← readKind whole t
  return { fill, align, sign, alternate, zero, width := width.getD 0, grouping, precision, kind }

/-! ## Printing -/

/-- The text of a specifier; a width of zero is left out. -/
def print (s : Specifier) : Text :=
  s.fill.toList ++ (s.align.map Align.toChar).toList ++ (s.sign.map Sign.toChar).toList
    ++ (if s.alternate then ['#'] else []) ++ (if s.zero then ['0'] else [])
    ++ (if s.width = 0 then [] else Numeral.decimal s.width)
    ++ (if s.grouping then [','] else [])
    ++ (match s.precision with
        | some precision => '.' :: Numeral.decimal precision
        | none => [])
    ++ (s.kind.map Kind.letter).toList

end Specifier

end EscapeOnce
