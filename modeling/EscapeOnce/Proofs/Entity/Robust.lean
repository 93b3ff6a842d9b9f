import EscapeOnce.Proofs.Entity.Tokens

/-!
# Properties that safe texts keep

Two properties of a buffer matter for a page: that it is `Clean`, and that it is `WellEscaped`.
The operations on safe texts keep both, and for the same reasons, so the reasons are stated once.

* A property is `Concatenative` if texts without markup have it and concatenations inherit it.
  `Unmarked` is one, too.
* A property is `Robust` if, moreover, escaped forms have it, an end of a text inherits it, a cut
  between visible characters keeps it, and a text that has it begins with a character that has it
  alone, or else with a whole entity.

`Robust.induction` is the induction principle that the last two give: a robust text is taken apart
from the left, one character or one entity at a time.
-/

namespace EscapeOnce.Entity

/-- Texts without markup have the property, and concatenations inherit it. -/
structure Concatenative (P : Text → Prop) : Prop where
  of_unmarked : ∀ {t : Text}, Unmarked t → P t
  append : ∀ {a b : Text}, P a → P b → P (a ++ b)

namespace Concatenative

variable {P : Text → Prop} (hP : Concatenative P)
include hP

theorem nil : P [] := hP.of_unmarked unmarked_nil

theorem flatten {parts : List Text} (h : ∀ t ∈ parts, P t) : P parts.flatten := by
  induction parts with
  | nil => exact hP.nil
  | cons t parts ih =>
    rw [List.flatten_cons]
    exact hP.append (h t List.mem_cons_self) (ih fun u hu => h u (List.mem_cons_of_mem _ hu))

theorem replicate (n : Nat) {c : Char} (h : P [c]) : P (List.replicate n c) := by
  induction n with
  | zero => exact hP.nil
  | succ n ih =>
    rw [List.replicate_succ]
    exact hP.append (a := [c]) h ih

theorem intercalate {separator : Text} {parts : List Text} (hs : P separator)
    (h : ∀ t ∈ parts, P t) : P (separator.intercalate parts) := by
  refine hP.flatten fun t ht => ?_
  induction parts with
  | nil => exact absurd ht List.not_mem_nil
  | cons u parts ih =>
    match parts, ih, ht with
    | [], _, ht =>
      rw [List.mem_singleton.mp ht]
      exact h u List.mem_cons_self
    | v :: parts, ih, ht =>
      rw [List.intersperse_cons_cons, List.mem_cons, List.mem_cons] at ht
      rcases ht with rfl | rfl | ht
      · exact h t List.mem_cons_self
      · exact hs
      · exact ih (fun w hw => h w (List.mem_cons_of_mem _ hw)) ht

end Concatenative

theorem concatenative_unmarked : Concatenative Unmarked where
  of_unmarked := id
  append := fun ha hb => unmarked_append.mpr ⟨ha, hb⟩

/-- The property is inherited by concatenations, by ends and by cuts between visible characters,
and escaped forms have it. -/
structure Robust (P : Text → Prop) : Prop extends Concatenative P where
  escape : ∀ r : Text, P (escape r)
  of_append : ∀ {a b : Text}, P (a ++ b) → P b
  take : ∀ (n : Nat) {t : Text}, P t → P (Visible.take n t)
  head : ∀ {c : Char} {t : Text}, P (c :: t) → P [c] ∨ ∃ entity ∈ table, entity.2 <+: c :: t

theorem robust_clean : Robust Clean where
  of_unmarked := Unmarked.clean
  append := fun ha hb => clean_append.mpr ⟨ha, hb⟩
  escape := clean_escape
  of_append := fun h => (clean_append.mp h).2
  take := fun n _ h => h.subset (Visible.take_isPrefix n _).subset
  head := fun h => Or.inl (h.subset (List.cons_subset_cons _ (List.nil_subset _)))

theorem robust_wellEscaped : Robust WellEscaped where
  of_unmarked := wellEscaped_of_unmarked
  append := WellEscaped.append
  escape := wellEscaped_escape
  of_append := WellEscaped.of_append
  take := by
    intro n t h
    obtain ⟨r, rfl⟩ := wellEscaped_iff_exists_escape.mp h
    rw [Visible.take_escape]
    exact wellEscaped_escape _
  head := fun h => h.head.imp_left wellEscaped_of_unmarked

namespace Robust

variable {P : Text → Prop} (hP : Robust P)
include hP

theorem tail {c : Char} {t : Text} (h : P (c :: t)) : P t := hP.of_append (a := [c]) h

theorem entity {entity : Char × Text} (h : entity ∈ table) : P entity.2 := by
  rw [← escapeChar_of_mem_table h, ← escape_singleton]
  exact hP.escape _

/-- A robust text is taken apart from the left, by characters and entities. -/
theorem induction {motive : Text → Prop} (nil : motive [])
    (char : ∀ c t, P [c] → P t → motive t → motive (c :: t))
    (entity : ∀ e ∈ table, ∀ t, P t → motive t → motive (e.2 ++ t)) {t : Text} (h : P t) :
    motive t :=
  induction_by_entities hP.of_append hP.head nil char entity h

/-- What stands before a character that no entity has is robust. -/
theorem of_append_cons {a b : Text} {c : Char} (hc : ∀ e ∈ table, c ∉ e.2) (h : P (a ++ c :: b)) :
    P a := by
  refine hP.induction (motive := fun t => ∀ a, t = a ++ c :: b → P a) ?_ ?_ ?_ h a rfl
  · intro a ha
    exact absurd ha (by simp)
  · intro d t hd _ ih a ha
    match a, ha with
    | [], _ => exact hP.nil
    | e :: a, ha =>
      obtain ⟨rfl, htail⟩ := List.cons.inj ha
      exact hP.append (a := [d]) hd (ih a htail)
  · intro e he t _ ih a ha
    rcases List.append_eq_append_iff.mp ha with ⟨middle, rfl, ht⟩ | ⟨middle, hmiddle, ht⟩
    · exact hP.append (hP.entity he) (ih middle ht)
    · match middle, hmiddle, ht with
      | [], hmiddle, _ =>
        rw [List.append_nil] at hmiddle
        exact hmiddle ▸ hP.entity he
      | d :: middle, hmiddle, ht =>
        -- the entity would go on with `c`
        obtain ⟨rfl, -⟩ := List.cons.inj ht
        exact absurd (hmiddle ▸ by simp) (hc e he)

end Robust

end EscapeOnce.Entity
