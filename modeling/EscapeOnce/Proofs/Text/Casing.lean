import EscapeOnce.Proofs.Entity.Robust
import EscapeOnce.Text.Casing

/-!
# Changing the case of escaped text

A case mapping never makes markup: a character either stays itself or becomes characters that are
not markup (`Unicode.lowerOf_cases`, `Unicode.upperOf_cases`).  What the tables have to say for this
is that no image is below the capital letters.

Lower case moreover leaves the names of the entities alone, so it takes an escaped text to an
escaped text, as does capitalizing, which changes nothing of a leading entity.  Upper case keeps a
text clean, but makes `&AMP;` of an entity.
-/

namespace EscapeOnce

open Entity

/-! ## Single characters -/

namespace Unicode

/-- Every markup character comes before the capital letters. -/
theorem unmarked_ofNat {n : Nat} (h : 62 < n) : Unmarked [Char.ofNat n] := by
  have hcode : (Char.ofNat n).toNat = n ∨ (Char.ofNat n).toNat = 0 := by
    by_cases hvalid : n.isValidChar
    · left
      rw [Char.ofNat, dif_pos hvalid]
      rfl
    · right
      rw [Char.ofNat, dif_neg hvalid]
      rfl
  have hne : ∀ d : Char, 0 < d.toNat → d.toNat ≤ 62 → Char.ofNat n ≠ d := by
    rintro d hpos hle rfl
    rcases hcode with hcode | hcode <;> omega
  intro d hd
  rw [List.mem_singleton.mp hd]
  exact ⟨hne _ (by decide) (by decide), hne _ (by decide) (by decide),
    hne _ (by decide) (by decide), hne _ (by decide) (by decide)⟩

/-- No image of the mapping is below the capital letters. -/
def CaseMap.BeyondMarkup (m : CaseMap) : Prop :=
  (∀ run ∈ m.runs, 62 < run.image) ∧ ∀ expansion ∈ m.expansions, ∀ image ∈ expansion.2, 62 < image

theorem beyondMarkup_lowerMap : lowerMap.BeyondMarkup :=
  ⟨by decide +kernel, by decide +kernel⟩

theorem beyondMarkup_upperMap : upperMap.BeyondMarkup :=
  ⟨by decide +kernel, by decide +kernel⟩

/-- A character stays itself or becomes characters that are not markup. -/
theorem CaseMap.apply_cases {m : CaseMap} (h : m.BeyondMarkup) (c : Char) :
    m.apply c = [c] ∨ Unmarked (m.apply c) := by
  unfold apply
  cases hlookup : m.expansions.lookup c.toNat with
  | some images =>
    obtain ⟨expansions, _, hexpansion⟩ := List.lookup_eq_some_iff.mp hlookup
    have hmem : (c.toNat, images) ∈ m.expansions := by
      rw [hexpansion.1]
      exact List.mem_append_right _ List.mem_cons_self
    refine Or.inr fun d hd => ?_
    obtain ⟨image, himage, rfl⟩ := List.mem_map.mp hd
    exact unmarked_ofNat (h.2 _ hmem image himage) _ (List.mem_singleton_self _)
  | none =>
    cases hfound : m.runs.findSome? (·.image? c.toNat) with
    | some image =>
      obtain ⟨run, hrun, himage⟩ := List.exists_of_findSome?_eq_some hfound
      rw [Run.image?] at himage
      split at himage
      · rw [← Option.some.inj himage]
        have hbeyond := h.1 run hrun
        exact Or.inr (unmarked_ofNat (by omega))
      · cases himage
    | none => exact Or.inl rfl

theorem lowerOf_cases (c : Char) : lowerOf c = [c] ∨ Unmarked (lowerOf c) :=
  CaseMap.apply_cases beyondMarkup_lowerMap c

theorem upperOf_cases (c : Char) : upperOf c = [c] ∨ Unmarked (upperOf c) :=
  CaseMap.apply_cases beyondMarkup_upperMap c

end Unicode

namespace Text

/-- A character of an entity stays itself in lower case, whatever stands around it. -/
theorem lowerBetween_of_mem_entity {entity : Char × Text} (h : entity ∈ table) (before after : Text)
    {c : Char} (hc : c ∈ entity.2) : lowerBetween before c after = [c] := by
  have hletters : ∀ e ∈ table, e.2.all fun d => d ≠ 'Σ' ∧ Unicode.lowerOf d = [d] := by
    decide +kernel
  obtain ⟨hsigma, hlower⟩ := of_decide_eq_true (List.all_eq_true.mp (hletters entity h) c hc)
  rw [lowerBetween, if_neg hsigma, hlower]

/-- Lower case leaves a beginning alone whose characters all stay themselves. -/
theorem lowerAfter_append {a : Text} (t : Text)
    (h : ∀ c ∈ a, ∀ before after, lowerBetween before c after = [c]) (before : Text) :
    lowerAfter before (a ++ t) = a ++ lowerAfter (a.reverse ++ before) t := by
  induction a generalizing before with
  | nil => rfl
  | cons c a ih =>
    rw [List.cons_append, lowerAfter, h c List.mem_cons_self,
      ih (fun d hd => h d (List.mem_cons_of_mem _ hd)), List.reverse_cons, List.append_assoc,
      List.singleton_append, List.cons_append, List.singleton_append]

end Text

/-! ## Whole texts -/

namespace Entity.Robust

variable {P : Text → Prop} (hP : Robust P)
include hP

theorem lowerBetween {c : Char} (hc : P [c]) (before after : Text) :
    P (Text.lowerBetween before c after) := by
  rw [Text.lowerBetween]
  split
  · exact hP.of_unmarked (by split <;> decide)
  · rcases Unicode.lowerOf_cases c with hself | hunmarked
    · rw [hself]
      exact hc
    · exact hP.of_unmarked hunmarked

/-- Lower case keeps a robust property, whatever characters come before the text. -/
theorem lowerAfter {t : Text} (h : P t) (before : Text) : P (Text.lowerAfter before t) := by
  refine hP.induction (motive := fun t => ∀ before, P (Text.lowerAfter before t)) ?_ ?_ ?_ h before
  · exact fun _ => hP.nil
  · intro c t hc _ ih before
    exact hP.append (hP.lowerBetween hc before t) (ih (c :: before))
  · intro entity hentity t _ ih before
    rw [Text.lowerAfter_append t fun c hc before after =>
      Text.lowerBetween_of_mem_entity hentity before after hc]
    exact hP.append (hP.entity hentity) (ih _)

theorem lower {t : Text} (h : P t) : P t.lower := hP.lowerAfter h []

/-- Capitalizing keeps a robust property: a leading entity begins with an `&`, which has no upper
case, and the rest of it stays as it is. -/
theorem capitalize {t : Text} (h : P t) : P t.capitalize := by
  match t, h with
  | [], _ => exact hP.nil
  | c :: t, h =>
    rw [Text.capitalize]
    rcases hP.head h with hc | ⟨entity, hentity, rest, hrest⟩
    · refine hP.append ?_ (hP.lower (hP.tail h))
      rcases Unicode.upperOf_cases c with hself | hunmarked
      · rw [hself]
        exact hc
      · exact hP.of_unmarked hunmarked
    · obtain ⟨name, hname, -⟩ := exists_cons_of_mem_table hentity
      rw [hname, List.cons_append] at hrest
      obtain ⟨rfl, rfl⟩ := List.cons.inj hrest
      have hamp : Unicode.upperOf '&' = ['&'] := by decide +kernel
      have hkept : Text.lower (name ++ rest) = name ++ Text.lowerAfter (name.reverse ++ []) rest :=
        Text.lowerAfter_append rest (fun c hc before after =>
          Text.lowerBetween_of_mem_entity hentity before after
            (hname ▸ List.mem_cons_of_mem _ hc)) []
      rw [hamp, hkept, ← List.append_assoc, List.singleton_append, ← hname]
      exact hP.append (hP.entity hentity) (hP.lowerAfter (hP.of_append (hP.tail h)) _)

end Entity.Robust

/-- Upper case keeps a text clean. -/
theorem Entity.Clean.upper {t : Text} (h : Clean t) : Clean t.upper := by
  intro d hd
  obtain ⟨c, hc, hd⟩ := List.mem_flatMap.mp hd
  rcases Unicode.upperOf_cases c with hself | hunmarked
  · rw [hself] at hd
    rw [List.mem_singleton.mp hd]
    exact h c hc
  · exact hunmarked.clean d hd

end EscapeOnce
