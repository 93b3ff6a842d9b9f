import EscapeOnce.Json
import EscapeOnce.Json.Magnitude

/-!
# Reading JSON

The grammar of JSON texts, read from the left by small readers that give what they read and the
rest of the text.  Nothing but white space may follow the document.

A document may be nested at most 127 deep.  The nesting still allowed is what the reader of a
document recurses on, so the limit and the reason why reading ends are the same number.  Inside one
array or object the reader goes from item to item; there each item takes at least one character.
-/

namespace EscapeOnce.Json

/-! ## White space and fixed words -/

/-- The character is white space between the parts of a document. -/
def isBlank (c : Char) : Bool := c == ' ' || c == '\n' || c == '\t' || c == '\r'

/-- The text behind its leading white space. -/
def skipBlanks (t : Text) : Text := t.dropWhile isBlank

/-! ## Strings -/

/-- The value of a hexadecimal digit of either case. -/
def hexValue? (c : Char) : Option Nat :=
  if c.isDigit then some (c.toNat - '0'.toNat)
  else if 'a' ≤ c && c ≤ 'f' then some (c.toNat - 'a'.toNat + 10)
  else if 'A' ≤ c && c ≤ 'F' then some (c.toNat - 'A'.toNat + 10)
  else none

/-- Takes off four hexadecimal digits. -/
def readHex4 : Text → Option (Nat × Text)
  | a :: b :: c :: d :: t => do
    let a ← hexValue? a
    let b ← hexValue? b
    let c ← hexValue? c
    let d ← hexValue? d
    return (((a * 16 + b) * 16 + c) * 16 + d, t)
  | _ => none

/-- Takes off the digits of a numbered character behind `\u`.  A number of the first surrogate range
has to be followed by one of the second, and the two make one character. -/
def readNumbered (t : Text) : Option (Char × Text) := do
  let (n, t) ← readHex4 t
  if n < 0xD800 || 0xDFFF < n then
    return (Char.ofNat n, t)
  else if n < 0xDC00 then
    match t with
    | '\\' :: 'u' :: t =>
      let (low, t) ← readHex4 t
      if 0xDC00 ≤ low && low ≤ 0xDFFF then
        return (Char.ofNat (0x10000 + (n - 0xD800) * 0x400 + (low - 0xDC00)), t)
      else
        none
    | _ => none
  else
    none

/-- The character that a letter stands for behind a backslash. -/
def escaped? (c : Char) : Option Char :=
  if c = '"' || c = '\\' || c = '/' then some c
  else if c = 'b' then some (Char.ofNat 8)
  else if c = 'f' then some (Char.ofNat 12)
  else if c = 'n' then some '\n'
  else if c = 'r' then some '\r'
  else if c = 't' then some '\t'
  else none

/-- Takes off one character of a string that does not end here. -/
def readChar : Text → Option (Char × Text)
  | '\\' :: 'u' :: t => readNumbered t
  | '\\' :: c :: t => (escaped? c).map fun c => (c, t)
  | c :: t => if c = '\\' || c.toNat < 0x20 then none else some (c, t)
  | [] => none

/-- Takes off the rest of a string with its closing quote, in at most `fuel` characters. -/
def readStringWithin : Nat → Text → Option (Text × Text)
  | _, '"' :: t => some ([], t)
  | 0, _ => none
  | fuel + 1, t => do
    let (c, t) ← readChar t
    let (rest, t) ← readStringWithin fuel t
    return (c :: rest, t)

/-- Takes off a string. -/
def readString : Text → Option (Text × Text)
  | '"' :: t => readStringWithin t.length t
  | _ => none

/-! ## Numbers -/

/-- Takes off a run of at least one digit. -/
def readDigits (t : Text) : Option (Text × Text) :=
  let digits := Numeral.leadingDigits t
  if digits.isEmpty then none else some (digits, Numeral.afterDigits t)

/-- Takes off the whole part of a number: zero alone, or digits that do not begin with zero. -/
def readWhole (t : Text) : Option (Text × Text) := do
  let (digits, t) ← readDigits t
  match digits with
  | '0' :: _ :: _ => none
  | _ => return (digits, t)

/-- Takes off a fraction, if there is one. -/
def readFraction : Text → Option (Option Text × Text)
  | '.' :: t => do
    let (digits, t) ← readDigits t
    return (some digits, t)
  | t => some (none, t)

/-- Takes off an exponent, if there is one. -/
def readExponent : Text → Option (Option (Bool × Text) × Text)
  | c :: t =>
    if c = 'e' || c = 'E' then do
      let (negative, t) := match t with
        | '-' :: t => (true, t)
        | '+' :: t => (false, t)
        | t => (false, t)
      let (digits, t) ← readDigits t
      return (some (negative, digits), t)
    else
      some (none, c :: t)
  | [] => some (none, [])

/-- Takes off a number. -/
def readNumber (t : Text) : Option (Number × Text) := do
  let (negative, t) := match t with
    | '-' :: t => (true, t)
    | t => (false, t)
  let (whole, t) ← readWhole t
  let (fraction, t) ← readFraction t
  let (exponent, t) ← readExponent t
  let number ← WrittenNumber.toNumber? { negative, whole, fraction, exponent }
  return (number, t)

/-! ## Arrays and objects -/

/-- Takes off items that are separated by commas, up to the character that closes them, at most
`fuel` of them. -/
def readItems {α : Type} (item : Text → Option (α × Text)) (closing : Char) :
    Nat → Text → Option (List α × Text)
  | 0, _ => none
  | fuel + 1, t => do
    let (first, t) ← item t
    match skipBlanks t with
    | c :: t =>
      if c = closing then
        return ([first], t)
      else if c = ',' then
        let (others, t) ← readItems item closing fuel t
        return (first :: others, t)
      else
        none
    | [] => none

/-- Takes off the items of an array or object behind its opening character; there may be none. -/
def readSequence {α : Type} (item : Text → Option (α × Text)) (closing : Char) (t : Text) :
    Option (List α × Text) :=
  match skipBlanks t with
  | [] => none
  | c :: rest =>
    if c = closing then some ([], rest) else readItems item closing t.length (c :: rest)

/-- Takes off a member of an object. -/
def readMember (document : Text → Option (Json × Text)) (t : Text) :
    Option ((Text × Json) × Text) := do
  let (name, t) ← readString (skipBlanks t)
  match skipBlanks t with
  | ':' :: t =>
    let (value, t) ← document t
    return ((name, value), t)
  | _ => none

/-! ## Documents -/

/-- Takes off a document that is nested at most `depth` deep. -/
def readDocument (depth : Nat) (t : Text) : Option (Json × Text) :=
  match skipBlanks t with
  | [] => none
  | c :: rest =>
    if c = '[' then
      match depth with
      | 0 => none
      | depth + 1 =>
        (readSequence (readDocument depth) ']' rest).map fun (elements, t) => (.array elements, t)
    else if c = '{' then
      match depth with
      | 0 => none
      | depth + 1 =>
        (readSequence (readMember (readDocument depth)) '}' rest).map
          fun (members, t) => (.object members, t)
    else if c = '"' then
      (readString (c :: rest)).map fun (content, t) => (.string content, t)
    else if c = '-' || c.isDigit then
      (readNumber (c :: rest)).map fun (n, t) => (.number n, t)
    else
      [("null", Json.null), ("true", .bool true), ("false", .bool false)].findSome?
        fun (word, document) =>
          (Text.dropStart? word.toList (c :: rest)).map fun t => (document, t)

/-- How deep a document may be nested. -/
def depthLimit : Nat := 127

/-- Reads a text that is one document. -/
def parse (t : Text) : Option Json := do
  let (document, rest) ← readDocument depthLimit t
  if (skipBlanks rest).isEmpty then return document else none

/-! ## Writing strings -/

/-- One character of a string as it is written between quotes. -/
def writtenChar (c : Char) : Text :=
  if c = '"' || c = '\\' then ['\\', c]
  else if c = Char.ofNat 8 then ['\\', 'b']
  else if c = Char.ofNat 12 then ['\\', 'f']
  else if c = '\n' then ['\\', 'n']
  else if c = '\r' then ['\\', 'r']
  else if c = '\t' then ['\\', 't']
  else if c.toNat < 0x20 then
    ['\\', 'u', '0', '0', Nat.digitChar (c.toNat / 16), Nat.digitChar (c.toNat % 16)]
  else [c]

/-- A text as a JSON string. -/
def writtenString (t : Text) : Text := '"' :: t.flatMap writtenChar ++ ['"']

end EscapeOnce.Json
