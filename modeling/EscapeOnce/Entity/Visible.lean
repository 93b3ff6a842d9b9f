import EscapeOnce.Entity

/-!
# Visible characters of escaped text

A reader of a page sees `&amp;` as one character, so widths and cuts count character references
as one.  A reference is `&`, a name of one to thirty-two ASCII letters, digits and number signs,
and a semicolon.  An `&` that begins no reference is a character of its own.

`Visible.tokens` takes a text apart into its visible characters.  Length and cut are those of this
list, so a cut never falls inside a reference.
-/

namespace EscapeOnce.Visible

/-- The character may stand in the name of a reference. -/
def isNameChar (c : Char) : Bool := c.isAlphanum || c == '#'

/-- The name and semicolon of the reference begun by an `&` before this text, and what follows. -/
def reference? (t : Text) : Option (Text × Text) :=
  let name := t.takeWhile isNameChar
  match t.dropWhile isNameChar with
  | ';' :: rest => if name.isEmpty || 32 < name.length then none else some (name ++ [';'], rest)
  | _ => none

/-- A reference is a name up to a semicolon. -/
theorem of_reference?_eq_some {t name rest : Text} (h : reference? t = some (name, rest)) :
    name = t.takeWhile isNameChar ++ [';'] ∧ t.dropWhile isNameChar = ';' :: rest := by
  simp only [reference?] at h
  split at h
  case h_1 tail htail =>
    split at h
    · exact absurd h (by simp)
    · obtain ⟨hname, hrest⟩ := Prod.mk.inj (Option.some.inj h)
      exact ⟨hname.symm, hrest ▸ htail⟩
  case h_2 => exact absurd h (by simp)

/-- What follows a reference is shorter than the text that it was read from. -/
theorem length_lt_of_reference?_eq_some {t name rest : Text}
    (h : reference? t = some (name, rest)) : rest.length < t.length := by
  have hle := Text.length_dropWhile_le isNameChar t
  rw [(of_reference?_eq_some h).2, List.length_cons] at hle
  exact hle

/-- The visible characters of a text, each with its spelling. -/
def tokens : Text → List Text
  | [] => []
  | c :: t =>
    if c = '&' then
      match _found : reference? t with
      | some (name, rest) => (c :: name) :: tokens rest
      | none => [c] :: tokens t
    else
      [c] :: tokens t
termination_by t => t.length
decreasing_by
  · have := length_lt_of_reference?_eq_some _found
    simp only [List.length_cons]
    omega
  · simp only [List.length_cons]; omega
  · simp only [List.length_cons]; omega

/-- The number of visible characters. -/
def length (t : Text) : Nat := (tokens t).length

/-- The beginning of a text with at most `n` visible characters. -/
def take (n : Nat) (t : Text) : Text := ((tokens t).take n).flatten

end EscapeOnce.Visible
