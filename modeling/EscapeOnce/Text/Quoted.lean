import EscapeOnce.Text
import EscapeOnce.Unicode.Printable

/-!
# Quoted texts and bytes

The diagnostic form of a text stands between double quotes.  The two characters that the form
itself needs, the quote and the backslash, are written behind a backslash, and so are the null
character, the tab and the two line ends, by a letter.  Any other character that does not show as
itself is written by its number, `\u` and the hexadecimal code point in braces.  All else is
written as it is, the single quote included.

Bytes have a form of their own: printable ASCII is written as it is, except for both quotes and
the backslash, and every byte without a letter is `\x` and two hexadecimal digits.
-/

namespace EscapeOnce.Text

/-- The letter that names a character behind a backslash inside a quoted text. -/
def quotedLetter? (c : Char) : Option Char :=
  if c = Char.ofNat 0 then some '0'
  else if c = '\t' then some 't'
  else if c = '\n' then some 'n'
  else if c = '\r' then some 'r'
  else if c = '"' then some '"'
  else if c = '\\' then some '\\'
  else none

/-- One character as it stands inside a quoted text. -/
def quotedChar (c : Char) : Text :=
  match quotedLetter? c with
  | some letter => ['\\', letter]
  | none =>
    if Unicode.extendsGrapheme c || !Unicode.isPrintable c then
      ['\\', 'u', '{'] ++ Nat.toDigits 16 c.toNat ++ ['}']
    else
      [c]

/-- The quoted form of a text. -/
def quoted (t : Text) : Text := '"' :: t.flatMap quotedChar ++ ['"']

/-- One byte as it stands inside quoted bytes. -/
def quotedByte (b : UInt8) : Text :=
  if b = 9 then ['\\', 't']
  else if b = 10 then ['\\', 'n']
  else if b = 13 then ['\\', 'r']
  else if b = 34 || b = 39 || b = 92 then ['\\', Char.ofNat b.toNat]
  else if 32 ≤ b && b ≤ 126 then [Char.ofNat b.toNat]
  else ['\\', 'x', Nat.digitChar (b.toNat / 16), Nat.digitChar (b.toNat % 16)]

/-- The quoted form of bytes. -/
def quotedBytes (bytes : List UInt8) : Text := ['b', '"'] ++ bytes.flatMap quotedByte ++ ['"']

end EscapeOnce.Text
