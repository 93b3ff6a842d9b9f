import EscapeOnce.Proofs.Text.Slice
import Mathlib.Data.List.Basic
import Mathlib.Data.List.Infix

/-!
# Beginnings and ends by bytes

Whether a text begins or ends with another can be seen from the bytes of the two.  No character's
form is the beginning of another's, so the forms that make up equal bytes are equal one by one
(`encodeChar_append_inj`).  An end of the bytes of a text that begins with the first byte of a
character does not begin inside the form of another, because the bytes inside are of a different
kind.  So a beginning by bytes is a beginning by characters (`utf8_isPrefix_iff`), and so is an end
(`utf8_isSuffix_iff`).
-/

namespace EscapeOnce.Text

/-- An end of two lists in a row is an end of the second or goes back into the first. -/
theorem suffix_append_cases {α : Type} {l a b : List α} (h : l <:+ a ++ b) :
    l <:+ b ∨ ∃ inner, inner ≠ [] ∧ inner <:+ a ∧ l = inner ++ b := by
  obtain ⟨front, hfront⟩ := h
  rcases List.append_eq_append_iff.mp hfront with ⟨inner, ha, hl⟩ | ⟨middle, -, hb⟩
  · by_cases hne : inner = []
    · subst hne
      exact Or.inl ⟨[], hl⟩
    · exact Or.inr ⟨inner, hne, ⟨front, ha.symm⟩, hl⟩
  · exact Or.inl ⟨middle, hb.symm⟩

/-- The form of a character can be told from what follows it. -/
theorem encodeChar_append_inj {c d : Char} {x y : List UInt8}
    (h : String.utf8EncodeChar c ++ x = String.utf8EncodeChar d ++ y) : c = d ∧ x = y := by
  have hread : ∀ (c : Char) (x : List UInt8),
      (String.utf8EncodeChar c ++ x).toByteArray.utf8DecodeChar? 0 = some c := by
    intro c x
    rw [List.toByteArray_append]
    exact ByteArray.utf8DecodeChar?_utf8EncodeChar_append
  have hsame : c = d := by
    rw [← Option.some.injEq, ← hread c x, h, hread d y]
  subst hsame
  exact ⟨rfl, List.append_cancel_left h⟩

theorem encodeChar_ne_nil (c : Char) : String.utf8EncodeChar c ≠ [] := by
  refine List.ne_nil_of_length_pos ?_
  rw [String.length_utf8EncodeChar]
  exact c.utf8Size_pos

theorem utf8_eq_nil_iff {t : Text} : t.utf8 = [] ↔ t = [] := by
  cases t with
  | nil => exact ⟨fun _ => rfl, fun _ => rfl⟩
  | cons c t =>
    rw [utf8_cons, List.append_eq_nil_iff]
    exact ⟨fun h => absurd h.1 (encodeChar_ne_nil c), fun h => nomatch h⟩

theorem utf8_append (a b : Text) : (a ++ b).utf8 = a.utf8 ++ b.utf8 := List.flatMap_append

/-- A text begins with another exactly if its bytes do. -/
theorem utf8_isPrefix_iff {a b : Text} : a.utf8 <+: b.utf8 ↔ a <+: b := by
  constructor
  · intro h
    induction a generalizing b with
    | nil => exact List.nil_prefix
    | cons c a ih =>
      obtain ⟨rest, hrest⟩ := h
      cases b with
      | nil => exact absurd (List.append_eq_nil_iff.mp hrest).1 (utf8_eq_nil_iff.not.mpr nofun)
      | cons d b =>
        rw [utf8_cons, utf8_cons, List.append_assoc] at hrest
        obtain ⟨rfl, hbytes⟩ := encodeChar_append_inj hrest
        exact List.cons_prefix_cons.mpr ⟨rfl, ih ⟨rest, hbytes⟩⟩
  · rintro ⟨rest, rfl⟩
    rw [utf8_append]
    exact List.prefix_append ..

theorem utf8_injective {a b : Text} (h : a.utf8 = b.utf8) : a = b := by
  have hab : a <+: b := utf8_isPrefix_iff.mp (h ▸ List.prefix_rfl)
  have hba : b <+: a := utf8_isPrefix_iff.mp (h ▸ List.prefix_rfl)
  exact hab.eq_of_length_le hba.length_le

/-- What is left of the form of a character, and begins as the form of one, is the whole form. -/
theorem eq_encodeChar_of_suffix {c d : Char} {inner x y : List UInt8} (hne : inner ≠ [])
    (hinner : inner <:+ String.utf8EncodeChar d) (hc : String.utf8EncodeChar c ++ x = inner ++ y) :
    inner = String.utf8EncodeChar d := by
  obtain ⟨front, hfront⟩ := hinner
  obtain ⟨b, inner, rfl⟩ := List.exists_cons_of_ne_nil hne
  obtain ⟨b', tail, htail⟩ := List.exists_cons_of_ne_nil (encodeChar_ne_nil c)
  have hpos : 0 < (String.utf8EncodeChar c).length :=
    List.length_pos_of_ne_nil (encodeChar_ne_nil c)
  have hlt : front.length < (String.utf8EncodeChar d).length := by
    rw [← hfront, List.length_append, List.length_cons]
    omega
  have hfirst : (String.utf8EncodeChar c)[0] = b := by
    simp only [htail, List.cons_append, List.cons.injEq] at hc ⊢
    exact hc.1
  have hplace : (String.utf8EncodeChar d)[front.length] = b := by
    simp only [← hfront, List.getElem_append_right (Nat.le_refl _), Nat.sub_self,
      List.getElem_cons_zero]
  have hkind : b.IsUTF8FirstByte := hfirst ▸ UInt8.isUTF8FirstByte_getElem_utf8EncodeChar.mpr rfl
  have hzero : front.length = 0 := UInt8.isUTF8FirstByte_getElem_utf8EncodeChar.mp (hplace ▸ hkind)
  rw [List.eq_nil_of_length_eq_zero hzero] at hfront
  exact hfront

/-- A text ends with another exactly if its bytes do. -/
theorem utf8_isSuffix_iff {a b : Text} : a.utf8 <:+ b.utf8 ↔ a <:+ b := by
  constructor
  · intro h
    induction b with
    | nil =>
      obtain rfl := utf8_eq_nil_iff.mp (List.suffix_nil.mp h)
      exact List.suffix_rfl
    | cons d b ih =>
      rcases suffix_append_cases (utf8_cons d b ▸ h) with hrest | ⟨inner, hne, hinner, heq⟩
      · exact (ih hrest).trans (List.suffix_cons d b)
      · cases a with
        | nil => exact List.nil_suffix
        | cons c a =>
          rw [utf8_cons] at heq
          obtain rfl := eq_encodeChar_of_suffix hne hinner heq
          obtain ⟨rfl, hbytes⟩ := encodeChar_append_inj heq
          obtain rfl := utf8_injective hbytes
          exact List.suffix_rfl
  · rintro ⟨front, rfl⟩
    rw [utf8_append]
    exact List.suffix_append ..

end EscapeOnce.Text
