import EscapeOnce.Entity.Visible
import EscapeOnce.Text.Slice

/-!
# Cutting by bytes

An escaped text is cut in one pass that counts visible characters and knows its place as a number of
bytes.  At an `&` it looks ahead to the next semicolon, however far it is, and steps over everything
up to it if what stands between may be a name.  Anywhere else, and at an `&` that begins no
reference, it steps over one character.

A step that ended inside a character would leave the pass without a text to go on with; the results
are optional for that reason alone.
-/

namespace EscapeOnce.Visible

/-- The number of bytes of the reference that a text begins with. -/
def referenceSize? : Text → Option Nat
  | '&' :: t =>
    (Text.cutAt? ';' t).bind fun cut =>
      let name := cut.1
      if !name.isEmpty && name.utf8Size ≤ 32 && name.all isNameChar then some (name.utf8Size + 2)
      else none
  | _ => none

/-- The number of bytes that a step passes over. -/
def stepSize (t : Text) : Nat :=
  match t with
  | [] => 1
  | c :: _ => if c = '&' then (referenceSize? t).getD 1 else c.utf8Size

theorem stepSize_pos (t : Text) : 0 < stepSize t := by
  cases t with
  | nil => exact Nat.one_pos
  | cons c t =>
    by_cases hc : c = '&'
    · rw [stepSize, if_pos hc]
      cases hsize : referenceSize? (c :: t) with
      | none => exact Nat.one_pos
      | some size =>
        subst hc
        simp only [referenceSize?, Option.bind_eq_some_iff] at hsize
        obtain ⟨cut, -, hcut⟩ := hsize
        split at hcut
        · rw [Option.getD_some, ← Option.some.inj hcut]
          exact Nat.succ_pos _
        · cases hcut
    · rw [stepSize, if_neg hc]
      exact c.utf8Size_pos

/-- The pass from the byte at `i` on, behind which `count` visible characters have been met. -/
def truncateFrom (t : Text) (limit i count : Nat) : Option (Text × Nat) :=
  if i < t.utf8Size then
    if count = limit then (t.takeBytes? i).map (·, count)
    else
      match t.dropBytes? i with
      | none => none
      | some rest => truncateFrom t limit (i + stepSize rest) (count + 1)
  else some (t, count)
termination_by t.utf8Size - i
decreasing_by
  have := stepSize_pos rest
  omega

/-- The beginning of a text with at most `limit` visible characters, and how many these are. -/
def truncate? (limit : Nat) (t : Text) : Option (Text × Nat) := truncateFrom t limit 0 0

end EscapeOnce.Visible
