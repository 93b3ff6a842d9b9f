import EscapeOnce.Text

/-!
# Entities

Four characters have a meaning in markup, and each has an entity that stands for it: `&amp;`,
`&lt;`, `&gt;` and `&quot;`.  Escaping writes the entity for each of them and leaves every other
character as it is.  The single quote is among those left alone, because attribute values are
always written between double quotes.

Escaping is a code: `Entity.decode` reads an escaped text back, from the left and in one pass.
The texts that it produces are the well-escaped ones.  They hold none of `<`, `>` and the double
quote, and each `&` in them begins one of the four entities.
-/

namespace EscapeOnce.Entity

/-- The markup characters and the entities that stand for them. -/
def table : List (Char × Text) :=
  [('&', ['&', 'a', 'm', 'p', ';']),
   ('<', ['&', 'l', 't', ';']),
   ('>', ['&', 'g', 't', ';']),
   ('"', ['&', 'q', 'u', 'o', 't', ';'])]

/-- The entity that stands for a markup character. -/
def ofChar? (c : Char) : Option Text := table.lookup c

/-- One character in escaped form. -/
def escapeChar (c : Char) : Text := (ofChar? c).getD [c]

/-- The escaped form of a text. -/
def escape (t : Text) : Text := t.flatMap escapeChar

/-- The number of bytes by which escaping makes a text longer. -/
def growth : Text → Nat
  | [] => 0
  | c :: t => (escapeChar c).utf8Size - c.utf8Size + growth t

/-- Reads the four entities back, from the left; any other character stands for itself. -/
def decode : Text → Text
  | '&' :: 'a' :: 'm' :: 'p' :: ';' :: t => '&' :: decode t
  | '&' :: 'l' :: 't' :: ';' :: t => '<' :: decode t
  | '&' :: 'g' :: 't' :: ';' :: t => '>' :: decode t
  | '&' :: 'q' :: 'u' :: 'o' :: 't' :: ';' :: t => '"' :: decode t
  | c :: t => c :: decode t
  | [] => []

/-- The text holds neither angle bracket and no double quote. -/
def Clean (t : Text) : Prop := ∀ c ∈ t, c ≠ '<' ∧ c ≠ '>' ∧ c ≠ '"'

/-- The text is clean, and each `&` in it begins one of the four entities. -/
def WellEscaped (t : Text) : Prop :=
  Clean t ∧ ∀ before after, t = before ++ '&' :: after →
    ∃ entity ∈ table, entity.2 <+: '&' :: after

end EscapeOnce.Entity
