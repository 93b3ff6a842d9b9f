import EscapeOnce.Operand
import EscapeOnce.Proofs.Entity.Robust
import EscapeOnce.Proofs.Number.Unmarked

/-!
# The quoted form of a safe buffer

A safe buffer is quoted for its diagnostic form, and the quotes around it are then written as
entities.  Quoting writes a character as it is, or else as a backslash with a letter, a quote or a
number behind it, and of these only the quote is markup.  The letters of the entities are all
written as they are, so an entity stays whole.
-/

namespace EscapeOnce

open Entity

/-- Quoting leaves a character as it is, or writes a quote behind a backslash, or no markup. -/
theorem Text.quotedChar_cases (c : Char) :
    (c ≠ '"' ∧ quotedChar c = [c]) ∨ quotedChar c = ['\\', '"'] ∨ Unmarked (quotedChar c) := by
  match hletter : quotedLetter? c with
  | some letter =>
    have hquoted : quotedChar c = ['\\', letter] := by rw [quotedChar, hletter]
    have hletters : letter = '"' ∨ Unmarked ['\\', letter] := by
      unfold quotedLetter? at hletter
      repeat' split at hletter
      all_goals cases hletter <;> decide
    rw [hquoted]
    rcases hletters with rfl | hunmarked
    · exact Or.inr (Or.inl rfl)
    · exact Or.inr (Or.inr hunmarked)
  | none =>
    by_cases hnumber : Unicode.extendsGrapheme c || !Unicode.isPrintable c
    · have hquoted : quotedChar c = ['\\', 'u', '{'] ++ Nat.toDigits 16 c.toNat ++ ['}'] := by
        rw [quotedChar, hletter]
        exact if_pos hnumber
      rw [hquoted]
      exact Or.inr (Or.inr (unmarked_append.mpr
        ⟨unmarked_append.mpr ⟨by decide, Numeral.unmarked_toDigits 16 _⟩, by decide⟩))
    · have hquote : c ≠ '"' := by
        rintro rfl
        cases hletter
      have hquoted : quotedChar c = [c] := by
        rw [quotedChar, hletter]
        exact if_neg hnumber
      exact Or.inl ⟨hquote, hquoted⟩

namespace Operand

/-- One character of a safe buffer in quoted form. -/
def shownChar (c : Char) : Text :=
  (Text.quotedChar c).flatMap fun d => if d = '"' then escapeChar d else [d]

/-- The quoted form of a safe buffer is that of its characters, between quotes. -/
theorem trustedRepresentation_eq (buffer : Text) :
    trustedRepresentation buffer =
      escapeChar '"' ++ buffer.flatMap shownChar ++ escapeChar '"' := by
  rw [trustedRepresentation, Text.quoted, List.cons_append, List.flatMap_cons, List.flatMap_append,
    List.flatMap_assoc, List.flatMap_singleton, ← List.append_assoc]
  rfl

/-- The characters of an entity are shown as they are. -/
theorem shownChar_of_mem_entity :
    ∀ entity ∈ table, ∀ c ∈ entity.2, shownChar c = [c] := by
  have hshown : ∀ entity ∈ table, entity.2.all fun c => shownChar c = [c] := by decide +kernel
  intro entity h c hc
  exact of_decide_eq_true (List.all_eq_true.mp (hshown entity h) c hc)

theorem flatMap_shownChar_entity {entity : Char × Text} (h : entity ∈ table) :
    entity.2.flatMap shownChar = entity.2 := by
  have hself : ∀ t : Text, (∀ c ∈ t, shownChar c = [c]) → t.flatMap shownChar = t := by
    intro t ht
    induction t with
    | nil => rfl
    | cons c t ih =>
      rw [List.flatMap_cons, ht c List.mem_cons_self, List.singleton_append,
        ih fun d hd => ht d (List.mem_cons_of_mem _ hd)]
  exact hself _ (shownChar_of_mem_entity entity h)

/-- A character is shown as itself, as a quote behind a backslash, or without markup. -/
theorem shownChar_cases (c : Char) :
    shownChar c = [c] ∨ shownChar c = '\\' :: escapeChar '"' ∨ Unmarked (shownChar c) := by
  rcases Text.quotedChar_cases c with ⟨hc, hself⟩ | hquote | hunmarked
  · left
    rw [shownChar, hself, List.flatMap_singleton, if_neg hc]
  · right
    left
    rw [shownChar, hquote]
    rfl
  · right
    right
    intro d hd
    obtain ⟨e, he, hd⟩ := List.mem_flatMap.mp hd
    rw [if_neg (hunmarked e he).2.2.2] at hd
    rw [List.mem_singleton.mp hd]
    exact hunmarked e he

end Operand

/-- The quoted form of a safe buffer keeps a robust property of the buffer. -/
theorem Entity.Robust.trustedRepresentation {P : Text → Prop} (hP : Robust P) {buffer : Text}
    (h : P buffer) : P (Operand.trustedRepresentation buffer) := by
  have hquote : P (escapeChar '"') := escape_singleton '"' ▸ hP.escape ['"']
  have hshown : P (buffer.flatMap Operand.shownChar) := by
    refine hP.induction (motive := fun t => P (t.flatMap Operand.shownChar)) hP.nil ?_ ?_ h
    · intro c t hc _ ih
      rw [List.flatMap_cons]
      refine hP.append ?_ ih
      rcases Operand.shownChar_cases c with hself | hescaped | hunmarked
      · rw [hself]
        exact hc
      · rw [hescaped]
        exact hP.append (a := ['\\']) (hP.of_unmarked (by decide)) hquote
      · exact hP.of_unmarked hunmarked
    · intro entity hentity t _ ih
      rw [List.flatMap_append, Operand.flatMap_shownChar_entity hentity]
      exact hP.append (hP.entity hentity) ih
  rw [Operand.trustedRepresentation_eq]
  exact hP.append (hP.append hquote hshown) hquote

end EscapeOnce
