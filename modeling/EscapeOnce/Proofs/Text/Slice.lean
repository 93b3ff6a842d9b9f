import EscapeOnce.Text.Slice

/-!
# Stretches of a text at places between characters

The number of bytes before a place between two characters is the size of the text before it.  From
one such place to another there is a stretch, and it is the text in between
(`slice?_append_append`).  So whoever counts bytes and cuts only at such places never cuts a
character in two.
-/

namespace EscapeOnce.Text

@[simp] theorem utf8Size_nil : utf8Size [] = 0 := rfl

theorem utf8Size_cons (c : Char) (t : Text) : utf8Size (c :: t) = c.utf8Size + utf8Size t := rfl

@[simp] theorem utf8Size_append (a b : Text) : (a ++ b).utf8Size = a.utf8Size + b.utf8Size := by
  induction a with
  | nil => exact (Nat.zero_add _).symm
  | cons c a ih => rw [List.cons_append, utf8Size_cons, ih, utf8Size_cons, Nat.add_assoc]

/-- A text has no more characters than bytes. -/
theorem length_le_utf8Size (t : Text) : t.length ≤ t.utf8Size := by
  induction t with
  | nil => exact Nat.le_refl 0
  | cons c t ih =>
    have := c.utf8Size_pos
    rw [List.length_cons, utf8Size_cons]
    omega

theorem utf8_cons (c : Char) (t : Text) : utf8 (c :: t) = String.utf8EncodeChar c ++ utf8 t :=
  List.flatMap_cons

/-- A place behind a character is past the place before it. -/
theorem exists_utf8Size_cons_eq_succ (c : Char) (t : Text) :
    ∃ n, utf8Size (c :: t) = n + 1 ∧ c.utf8Size ≤ n + 1 ∧ n + 1 - c.utf8Size = t.utf8Size := by
  have hpos := c.utf8Size_pos
  refine ⟨c.utf8Size + t.utf8Size - 1, ?_, ?_, ?_⟩
  · rw [utf8Size_cons]; omega
  · omega
  · omega

/-- The text behind the bytes of a beginning is the rest. -/
theorem dropBytes?_append (a b : Text) : dropBytes? a.utf8Size (a ++ b) = some b := by
  induction a with
  | nil => rw [utf8Size_nil, List.nil_append, dropBytes?]
  | cons c a ih =>
    obtain ⟨n, hn, hle, hrest⟩ := exists_utf8Size_cons_eq_succ c a
    rw [hn, List.cons_append, dropBytes?, if_pos hle, hrest, ih]

/-- The bytes of a beginning are the beginning. -/
theorem takeBytes?_append (a b : Text) : takeBytes? a.utf8Size (a ++ b) = some a := by
  induction a with
  | nil => rw [utf8Size_nil, takeBytes?]
  | cons c a ih =>
    obtain ⟨n, hn, hle, hrest⟩ := exists_utf8Size_cons_eq_succ c a
    rw [hn, List.cons_append, takeBytes?, if_pos hle, hrest, ih, Option.map_some]

/-- The stretch between two places of a text is what stands there. -/
theorem slice?_append_append (a b c : Text) :
    slice? (a ++ b ++ c) a.utf8Size (a ++ b).utf8Size = some b := by
  have hle : a.utf8Size ≤ (a ++ b).utf8Size := by
    rw [utf8Size_append]
    exact Nat.le_add_right ..
  have hwidth : (a ++ b).utf8Size - a.utf8Size = b.utf8Size := by
    rw [utf8Size_append, Nat.add_sub_cancel_left]
  rw [slice?, if_pos hle, hwidth, List.append_assoc, dropBytes?_append, Option.bind_some,
    takeBytes?_append]

end EscapeOnce.Text
