import EscapeOnce.Proofs.Entity.Truncation
import EscapeOnce.Proofs.Specifier.Layout

/-!
# The visible width of a laid out text

A layout cuts a text between visible characters and puts fill characters around what is left.
Neither changes how the rest reads.  A cut is a seam of the text, and so are the two points where
the padding begins and ends: a fill other than `&` begins no reference, and a fill other than a
semicolon completes none.  The widths of the parts therefore add up (`length_padded`), and the text
is as wide as the specifier asks, or as it was if that is more.

Both conditions on the fill are needed: an `&` in front of `lt;` or a semicolon behind `&lt` makes
one visible character of several.
-/

namespace EscapeOnce

open Entity Visible

/-! ## Padding -/

theorem Align.add_shares (align : Align) (gap : Nat) :
    (align.shares gap).1 + (align.shares gap).2 = gap := by
  cases align <;> simp only [shares] <;> omega

/-- Padding is not read as part of a text, and is as wide as it is long. -/
theorem length_replicate_append {fill : Char} (hamp : fill ≠ '&') (hsemi : fill ≠ ';')
    (before behind : Nat) (body : Text) :
    length (List.replicate before fill ++ body ++ List.replicate behind fill) =
      before + length body + behind := by
  have hamps : ∀ n, '&' ∉ List.replicate n fill :=
    fun n hmem => hamp (List.eq_of_mem_replicate hmem).symm
  have hsemis : ';' ∉ List.replicate behind fill := fun hmem =>
    hsemi (List.eq_of_mem_replicate hmem).symm
  rw [(seam_of_semicolon_notMem hsemis _).length_append,
    (seam_of_ampersand_notMem (hamps before) body).length_append,
    length_of_ampersand_notMem (hamps before), length_of_ampersand_notMem (hamps behind),
    List.length_replicate, List.length_replicate]

theorem length_padded {fill : Char} (hamp : fill ≠ '&') (hsemi : fill ≠ ';') (width : Nat)
    (align : Align) (body : Text) :
    length (padded width (length body) fill align body) = max width (length body) := by
  have hshares := align.add_shares (width - length body)
  rw [padded, length_replicate_append hamp hsemi]
  omega

/-! ## Texts -/

namespace Specifier

/-- The part of a text that the precision leaves. -/
def cut (s : Specifier) (t : Text) : Text :=
  match s.precision with
  | some limit => take limit t
  | none => t

/-- The number of visible characters that the precision leaves. -/
def cutLength (s : Specifier) (t : Text) : Nat :=
  match s.precision with
  | some limit => min limit (length t)
  | none => length t

theorem kept_tokens (s : Specifier) (t : Text) : s.kept (tokens t) = tokens (s.cut t) := by
  cases h : s.precision <;> simp only [kept, cut, h, tokens_take]

theorem length_cut (s : Specifier) (t : Text) : length (s.cut t) = s.cutLength t := by
  cases h : s.precision <;> simp only [cut, cutLength, h, length_take]

/-- A text that a specifier lays out is cut and padded. -/
theorem layoutText_eq_ok {s : Specifier} {t typeName out : Text}
    (h : s.layoutText t typeName = .ok out) :
    out = padded s.width (length (s.cut t)) s.textFill (s.align.getD .left) (s.cut t) := by
  rw [layoutText] at h
  rcases s.layoutPieces_cases typeName with ⟨e, herror⟩ | hok
  · rw [herror] at h
    cases h
  · rw [hok, Except.ok.injEq, fitted, kept_tokens, flatten_tokens] at h
    exact h.symm

end Specifier

/-! ## Cuts and widths -/

/-- A cut leaves a beginning of the text with as many visible characters as it may have, and no
reference lies across it; a limit that is not exceeded leaves the whole text and counts its visible
characters.  Of two cuts the shorter one counts, and cutting an escaped form cuts the raw text.  A
text that a specifier lays out with a fill that takes no part in references is what the precision
leaves of it, with nothing but fill around it, and it is as wide as that or as the specifier
asks. -/
theorem Visible.cut_and_layout (t : Text) :
    (∀ n, ∃ p rest, truncate? n t = some (p, min n (length t)) ∧ t = p ++ rest ∧ Seam p rest ∧
      length p = min n (length t) ∧ length p + length rest = length t) ∧
    (∀ n, length t ≤ n → truncate? n t = some (t, length t)) ∧
    (∀ m n, ((truncate? m t).bind fun found => truncate? n found.1) = truncate? (min m n) t) ∧
    (∀ r n, (truncate? n (escape r)).map Prod.fst = some (escape (r.take n))) ∧
    ∀ (s : Specifier) (typeName out : Text), s.layoutText t typeName = .ok out →
      s.textFill ≠ '&' → s.textFill ≠ ';' →
        length out = max s.width (s.cutLength t) ∧
        ∃ before behind, out =
          List.replicate before s.textFill ++ s.cut t ++ List.replicate behind s.textFill := by
  refine ⟨fun n => ⟨take n t, drop n t, truncate?_eq_some n t, (take_append_drop n t).symm,
    seam_take n t, length_take n t, ?_⟩, fun n hn => ?_, fun m n => ?_, fun r n => ?_,
    fun s typeName out h hamp hsemi => ?_⟩
  · rw [← (seam_take n t).length_append, take_append_drop]
  · have hwhole : take n t = t := by rw [take, List.take_of_length_le hn, flatten_tokens]
    rw [truncate?_eq_some, hwhole, Nat.min_eq_right hn]
  · rw [truncate?_eq_some, Option.bind_some, truncate?_eq_some, truncate?_eq_some, take_take,
      length_take, ← Nat.min_assoc, Nat.min_comm n m]
  · rw [truncate?_eq_some, Option.map_some, take_escape]
  · have hout := Specifier.layoutText_eq_ok h
    refine ⟨?_, _, _, hout⟩
    rw [hout, length_padded hamp hsemi, Specifier.length_cut]

/-- A cut may leave an `&` with the beginning of a name, and the fill may go on with the name.
Without a semicolon it is no reference, and every character counts. -/
theorem Visible.cut_and_layout_unfinished :
    let s := { Specifier.plain with width := 7, precision := some 4, fill := some 'p' }
    s.layoutText "a&am x;".toList "str".toList = .ok "a&amppp".toList ∧
      s.textFill ≠ '&' ∧ s.textFill ≠ ';' ∧
      length "a&amppp".toList = 7 ∧ length (s.cut "a&am x;".toList) = 4 := by
  intro s
  have hlayout : s.layoutText "a&am x;".toList "str".toList = .ok "a&amppp".toList := by cbv
  have hfill : s.textFill ≠ '&' ∧ s.textFill ≠ ';' := by decide
  have htext : s.cutLength "a&am x;".toList = 4 := by cbv
  obtain ⟨hlength, -⟩ := (cut_and_layout "a&am x;".toList).2.2.2.2 s _ _ hlayout hfill.1 hfill.2
  refine ⟨hlayout, hfill.1, hfill.2, ?_, Specifier.length_cut s _ ▸ htext⟩
  rw [hlength, htext]
  rfl

/-- A semicolon as fill completes a reference, and the text shows as one character instead of
four. -/
example :
    let s := { Specifier.plain with width := 4, fill := some ';' }
    (s.layoutText "&lt".toList "str".toList).map length = .ok 1 := by
  cbv

end EscapeOnce
