import EscapeOnce.Text
import EscapeOnce.Text.Replace
import Mathlib.Data.List.Basic

/-!
# What a replacement is made of

Replacing occurrences writes nothing but characters of the text and of what is put in their place.
More cannot be said: the pattern may be a part of an entity, and what is left of the entity then
stands in the text.
-/

namespace EscapeOnce.Text

/-- A replacement holds characters of the text and of the new text only. -/
theorem replaceFirst_subset (old new : Text) (limit : Nat) (t : Text) :
    replaceFirst old new limit t ⊆ new ++ t := by
  have hcons : ∀ {c : Char} {t u : Text}, u ⊆ new ++ t → u ⊆ new ++ c :: t := fun h =>
    List.Subset.trans h (List.append_subset.mpr
      ⟨List.subset_append_left .., fun d hd => by simp [hd]⟩)
  fun_induction replaceFirst old new limit t with
  | case1 t => exact List.subset_append_right ..
  | case2 => exact List.subset_append_left ..
  | case3 => exact List.nil_subset _
  | case4 limit c t _ ih =>
    refine List.append_subset.mpr ⟨List.subset_append_left .., List.cons_subset.mpr ⟨?_, hcons ih⟩⟩
    simp
  | case5 limit c t p ps _ ih =>
    refine List.append_subset.mpr ⟨List.subset_append_left .., ?_⟩
    refine hcons (List.Subset.trans ih (List.append_subset.mpr ⟨List.subset_append_left .., ?_⟩))
    exact List.Subset.trans (List.drop_subset ps.length t) (List.subset_append_right ..)
  | case6 old limit c t _ ih =>
    refine List.cons_subset.mpr ⟨?_, hcons ih⟩
    simp

/-- The same holds without a limit. -/
theorem replace_subset (old new : Text) (limit : Option Nat) (t : Text) :
    replace old new limit t ⊆ new ++ t := by
  cases limit with
  | none => exact replaceFirst_subset old new _ t
  | some limit => exact replaceFirst_subset old new limit t

end EscapeOnce.Text
