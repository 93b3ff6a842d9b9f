import EscapeOnce.Entity.Visible
import EscapeOnce.Proofs.Entity.Code

/-!
# Visible characters of an escaped form

`Visible.tokens` spells a text (`flatten_tokens`), so a cut between visible characters is a
beginning of the text (`take_isPrefix`).

In an escaped form the visible characters are the escaped forms of the raw characters, one for each
(`tokens_escape`).  The name of an entity has at most four letters and ends in a semicolon, so the
reader of references takes exactly the entity, whatever raw text follows; and an `&` of the raw text
is itself written as an entity, so no reference begins anywhere else.  Counting and cutting escaped
text is therefore counting and cutting raw text (`take_escape`).
-/

namespace EscapeOnce.Visible

open Entity

/-! ## The visible characters spell the text -/

/-- A reference and what follows it are the text that it was read from. -/
theorem append_of_reference?_eq_some {t name rest : Text} (h : reference? t = some (name, rest)) :
    name ++ rest = t := by
  obtain ⟨rfl, hrest⟩ := of_reference?_eq_some h
  rw [List.append_assoc, List.singleton_append, ← hrest, List.takeWhile_append_dropWhile]

theorem tokens_nil : tokens [] = [] := by rw [tokens]

theorem tokens_cons_of_ne {c : Char} (hc : c ≠ '&') (t : Text) :
    tokens (c :: t) = [c] :: tokens t := by
  rw [tokens, if_neg hc]

theorem tokens_of_reference?_eq_some {t name rest : Text} (h : reference? t = some (name, rest)) :
    tokens ('&' :: t) = ('&' :: name) :: tokens rest := by
  rw [tokens, if_pos rfl]
  split
  case h_1 found =>
    obtain ⟨rfl, rfl⟩ := Prod.mk.inj (Option.some.inj (found.symm.trans h))
    rfl
  case h_2 found => exact absurd (found.symm.trans h) (by simp)

theorem tokens_of_reference?_eq_none {t : Text} (h : reference? t = none) :
    tokens ('&' :: t) = ['&'] :: tokens t := by
  rw [tokens, if_pos rfl]
  split
  case h_1 found => exact absurd (found.symm.trans h) (by simp)
  case h_2 => rfl

/-- The visible characters one after the other are the text. -/
theorem flatten_tokens (t : Text) : (tokens t).flatten = t := by
  fun_induction tokens t with
  | case1 => rfl
  | case2 t name rest found ih =>
    rw [List.flatten_cons, ih, List.cons_append, append_of_reference?_eq_some found]
  | case3 t found ih => rw [List.flatten_cons, ih, List.singleton_append]
  | case4 c t _ ih => rw [List.flatten_cons, ih, List.singleton_append]

/-- A cut between visible characters leaves a beginning of the text. -/
theorem take_isPrefix (n : Nat) (t : Text) : take n t <+: t := by
  refine ⟨((tokens t).drop n).flatten, ?_⟩
  rw [take, ← List.flatten_append, List.take_append_drop, flatten_tokens]

/-! ## Escaped forms -/

/-- An entity is read as one visible character, whatever follows it. -/
theorem tokens_entity {entity : Char × Text} (h : entity ∈ table) (t : Text) :
    tokens (entity.2 ++ t) = entity.2 :: tokens t := by
  simp only [table, List.mem_cons, List.not_mem_nil, or_false] at h
  rcases h with rfl | rfl | rfl | rfl <;> exact tokens_of_reference?_eq_some rfl

theorem tokens_escapeChar (c : Char) (t : Text) :
    tokens (escapeChar c ++ t) = escapeChar c :: tokens t := by
  rcases mem_table_or_unmarked c with ⟨entity, hmem, rfl⟩ | hc
  · rw [escapeChar_of_mem_table hmem, tokens_entity hmem]
  · rw [escapeChar_of_unmarked hc, List.singleton_append]
    exact tokens_cons_of_ne (hc c (List.mem_singleton_self c)).1 t

/-- The visible characters of an escaped form are the escaped raw characters. -/
theorem tokens_escape (r : Text) : tokens (escape r) = r.map escapeChar := by
  induction r with
  | nil => exact tokens_nil
  | cons c r ih => rw [escape_cons, tokens_escapeChar, ih, List.map_cons]

/-- Cutting an escaped form cuts the raw text. -/
theorem take_escape (n : Nat) (r : Text) : take n (escape r) = escape (r.take n) := by
  rw [take, tokens_escape, ← List.map_take, escape, List.flatMap_def]

end EscapeOnce.Visible
