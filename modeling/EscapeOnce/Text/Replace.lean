import EscapeOnce.Text

/-!
# Replacing occurrences

Occurrences are taken from the left and do not overlap.  The empty pattern occurs once before
every character and once at the end, so replacing it writes the new text between all characters.

`Text.replaceFirst` makes at most a given number of replacements.  A text of `n` characters has at
most `n + 1` occurrences of any pattern, so `Text.replaceAll` is `replaceFirst` with that number.
-/

namespace EscapeOnce.Text

/-- Replaces the first `limit` occurrences of `old` by `new`. -/
def replaceFirst (old new : Text) : Nat → Text → Text
  | 0, t => t
  | _ + 1, [] => if old.isEmpty then new else []
  | limit + 1, c :: t =>
    if old.isPrefixOf (c :: t) then
      match old with
      | [] => new ++ c :: replaceFirst [] new limit t
      | p :: ps => new ++ replaceFirst (p :: ps) new limit (t.drop ps.length)
    else
      c :: replaceFirst old new (limit + 1) t
termination_by _ t => t.length
decreasing_by all_goals simp only [List.length_cons, List.length_drop]; omega

/-- Replaces every occurrence of `old` by `new`. -/
def replaceAll (old new t : Text) : Text := replaceFirst old new (t.length + 1) t

/-- Replaces the first `limit` occurrences, or all of them when there is no limit. -/
def replace (old new : Text) : Option Nat → Text → Text
  | some limit, t => replaceFirst old new limit t
  | none, t => replaceAll old new t

end EscapeOnce.Text
