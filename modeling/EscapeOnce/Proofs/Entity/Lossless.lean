import EscapeOnce.Proofs.Entity.Writing
import Mathlib.Data.Set.Function

/-!
# Escaping loses nothing

An entity begins with an `&`, and no raw text has an `&` in its escaped form but in an entity.  So a
reader that goes from the left through an escaped form finds at each place either the one entity
that was written there or a character that stands for itself, whatever text follows
(`decode_escapeChar_append`).  It reads every text back, texts that look like entities included,
since their `&` has been escaped too.

Together with the description of the escaped forms as the well-escaped texts this makes escaping a
bijection from all texts onto the well-escaped ones, with `decode` as its inverse
(`escape_lossless`).
-/

namespace EscapeOnce.Entity

/-- A character that is not an `&` is read as itself. -/
theorem decode_cons_of_ne {c : Char} (hc : c ≠ '&') (t : Text) :
    decode (c :: t) = c :: decode t := by
  rw [decode] <;> exact fun _ h => absurd h hc

/-- The decoder reads one escaped character off a text. -/
theorem decode_escapeChar_append (c : Char) (t : Text) :
    decode (escapeChar c ++ t) = c :: decode t := by
  rcases mem_table_or_unmarked c with ⟨entity, hmem, rfl⟩ | hc
  · rw [escapeChar_of_mem_table hmem]
    simp only [table, List.mem_cons, List.not_mem_nil, or_false] at hmem
    rcases hmem with rfl | rfl | rfl | rfl <;> exact decode.eq_def _
  · rw [escapeChar_of_unmarked hc]
    exact decode_cons_of_ne (hc c (List.mem_singleton_self c)).1 t

/-- Every text is read back from its escaped form. -/
theorem decode_escape (t : Text) : decode (escape t) = t := by
  induction t with
  | nil => rfl
  | cons c t ih => rw [escape_cons, decode_escapeChar_append, ih]

/-- Every well-escaped text is the escaped form of what is read from it. -/
theorem escape_decode {t : Text} (h : WellEscaped t) : escape (decode t) = t := by
  obtain ⟨r, rfl⟩ := wellEscaped_iff_exists_escape.mp h
  rw [decode_escape]

theorem escapeChar_eq_ite (c : Char) :
    escapeChar c =
      if c = '&' then "&amp;".toList else if c = '<' then "&lt;".toList
      else if c = '>' then "&gt;".toList else if c = '"' then "&quot;".toList else [c] := by
  rcases mem_table_or_unmarked c with ⟨entity, hmem, rfl⟩ | hc
  · rw [escapeChar_of_mem_table hmem]
    simp only [table, List.mem_cons, List.not_mem_nil, or_false] at hmem
    rcases hmem with rfl | rfl | rfl | rfl <;> rfl
  · obtain ⟨h₁, h₂, h₃, h₄⟩ := hc c (List.mem_singleton_self c)
    rw [escapeChar_of_unmarked hc, if_neg h₁, if_neg h₂, if_neg h₃, if_neg h₄]

/-- Escaping is an exact and lossless code.  The two passes over the bytes of a text write each
markup character as its entity and every other character as it is, behind whatever is there already.
The result is longer by exactly what the first pass counts, it takes a concatenation to a
concatenation, and the decoder is the two-sided inverse of it between all texts and the well-escaped
ones. -/
theorem escape_lossless :
    (∀ t : Text, escapeBytes? t = some (escape t)) ∧
    (∀ t : Text, escape t = t.flatMap fun c =>
      if c = '&' then "&amp;".toList else if c = '<' then "&lt;".toList
      else if c = '>' then "&gt;".toList else if c = '"' then "&quot;".toList else [c]) ∧
    (∀ t : Text, (escape t).utf8Size = t.utf8Size + byteGrowth t) ∧
    (∀ dest t : Text, escapeInto? dest t = some (dest ++ escape t)) ∧
    (∀ a b : Text, escape (a ++ b) = escape a ++ escape b) ∧
    Set.BijOn escape Set.univ {t | WellEscaped t} ∧
    Set.InvOn decode escape Set.univ {t | WellEscaped t} := by
  have hinverse : Set.InvOn decode escape Set.univ {t | WellEscaped t} :=
    ⟨fun t _ => decode_escape t, fun _ h => escape_decode h⟩
  refine ⟨escapeBytes?_eq_some, fun t => ?_, fun t => ?_, escapeInto?_eq_some, escape_append, ?_,
    hinverse⟩
  · exact congrArg (t.flatMap ·) (funext escapeChar_eq_ite)
  · rw [byteGrowth_eq_growth, utf8Size_escape]
  · exact hinverse.bijOn (fun t _ => wellEscaped_escape t) fun _ _ => Set.mem_univ _

end EscapeOnce.Entity
