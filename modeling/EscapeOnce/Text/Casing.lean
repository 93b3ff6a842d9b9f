import EscapeOnce.Unicode.CaseMapping
import EscapeOnce.Unicode.Cased

/-!
# Upper and lower case of a text

Upper case is taken character by character.  Lower case is, but for one letter: a capital sigma
that ends a word becomes the final form.  It ends a word when, looking through case-ignorable
characters, a cased character comes before it and none comes after it.  The recursion therefore
carries the characters already passed, nearest first, so that both sides of a sigma are at hand.
-/

namespace EscapeOnce.Text

/-- The first character that is not case-ignorable exists and is cased. -/
def meetsCased (t : Text) : Bool :=
  match t.dropWhile Unicode.isCaseIgnorable with
  | [] => false
  | c :: _ => Unicode.isCased c

/-- The lower-case form of one character between the characters before it, nearest first, and
those after it. -/
def lowerBetween (before : Text) (c : Char) (after : Text) : Text :=
  if c = 'Σ' then
    if meetsCased before && !meetsCased after then ['ς'] else ['σ']
  else
    Unicode.lowerOf c

/-- The lower-case form of a text whose preceding characters, nearest first, are given. -/
def lowerAfter (before : Text) : Text → Text
  | [] => []
  | c :: after => lowerBetween before c after ++ lowerAfter (c :: before) after

/-- The lower-case form of a text. -/
def lower (t : Text) : Text := lowerAfter [] t

/-- The upper-case form of a text. -/
def upper (t : Text) : Text := t.flatMap Unicode.upperOf

/-- The first character in upper case and the rest, taken as a text of its own, in lower case. -/
def capitalize : Text → Text
  | [] => []
  | c :: rest => Unicode.upperOf c ++ lower rest

end EscapeOnce.Text
