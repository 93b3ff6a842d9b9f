import EscapeOnce.Entity
import Mathlib.Data.List.Basic
import Mathlib.Data.List.Infix

/-!
# The escaped texts

`Entity.escape` writes one character after the other, so it takes a concatenation to a
concatenation and leaves a text alone that has no markup character (`escape_append`,
`escape_eq_self`).

The main statement is `wellEscaped_iff_exists_escape`: the well-escaped texts are exactly the
escaped forms.  `WellEscaped` speaks of the characters that a text has and of what stands behind
each `&`; the other side is an induction principle.  What has to be shown of a well-escaped text is
shown of `escape r` by induction on `r`, and no argument ever has to look for the end of an entity.
-/

namespace EscapeOnce.Entity

/-! ## Texts without markup -/

/-- The text holds none of the four markup characters. -/
def Unmarked (t : Text) : Prop := ∀ c ∈ t, c ≠ '&' ∧ c ≠ '<' ∧ c ≠ '>' ∧ c ≠ '"'

instance : DecidablePred Unmarked := fun t =>
  t.decidableBAll fun c => c ≠ '&' ∧ c ≠ '<' ∧ c ≠ '>' ∧ c ≠ '"'

instance : DecidablePred Clean := fun t =>
  t.decidableBAll fun c => c ≠ '<' ∧ c ≠ '>' ∧ c ≠ '"'

@[simp] theorem unmarked_nil : Unmarked [] := fun _ hc => absurd hc List.not_mem_nil

@[simp] theorem unmarked_append {a b : Text} : Unmarked (a ++ b) ↔ Unmarked a ∧ Unmarked b :=
  List.forall_mem_append

theorem unmarked_cons {c : Char} {t : Text} : Unmarked (c :: t) ↔ Unmarked [c] ∧ Unmarked t :=
  unmarked_append (a := [c])

theorem Unmarked.subset {a b : Text} (h : Unmarked b) (hab : a ⊆ b) : Unmarked a :=
  fun c hc => h c (hab hc)

theorem Unmarked.of_mem {t : Text} (h : Unmarked t) {c : Char} (hc : c ∈ t) : Unmarked [c] :=
  h.subset fun d hd => by rwa [List.mem_singleton.mp hd]

theorem Unmarked.clean {t : Text} (h : Unmarked t) : Clean t := fun c hc => (h c hc).2

theorem unmarked_replicate (n : Nat) {c : Char} (h : Unmarked [c]) :
    Unmarked (List.replicate n c) := by
  intro d hd
  rw [List.eq_of_mem_replicate hd]
  exact h c (List.mem_singleton_self c)

@[simp] theorem clean_append {a b : Text} : Clean (a ++ b) ↔ Clean a ∧ Clean b :=
  List.forall_mem_append

theorem Clean.subset {a b : Text} (h : Clean b) (hab : a ⊆ b) : Clean a :=
  fun c hc => h c (hab hc)

/-! ## One character -/

/-- The entity of a character in the table is its escaped form. -/
theorem escapeChar_of_mem_table {entity : Char × Text} (h : entity ∈ table) :
    escapeChar entity.1 = entity.2 := by
  simp only [table, List.mem_cons, List.not_mem_nil, or_false] at h
  rcases h with rfl | rfl | rfl | rfl <;> rfl

/-- A character that is not in the table is its own escaped form. -/
theorem escapeChar_of_unmarked {c : Char} (h : Unmarked [c]) : escapeChar c = [c] := by
  have hnone : ofChar? c = none := by
    obtain ⟨h₁, h₂, h₃, h₄⟩ := h c (List.mem_singleton_self c)
    exact List.lookup_eq_none_iff.mpr (by simp [table, h₁, h₂, h₃, h₄])
  rw [escapeChar, hnone, Option.getD_none]

/-- Every character is in the table or is unmarked. -/
theorem mem_table_or_unmarked (c : Char) : (∃ entity ∈ table, entity.1 = c) ∨ Unmarked [c] := by
  by_cases h : ∃ entity ∈ table, entity.1 = c
  · exact Or.inl h
  · refine Or.inr fun d hd => ?_
    rw [List.mem_singleton.mp hd]
    simp only [table, List.mem_cons, List.not_mem_nil, or_false, exists_eq_or_imp,
      exists_eq_left, not_or] at h
    obtain ⟨h₁, h₂, h₃, h₄⟩ := h
    exact ⟨Ne.symm h₁, Ne.symm h₂, Ne.symm h₃, Ne.symm h₄⟩

/-- The entities hold no markup character but the `&` that begins them. -/
theorem exists_cons_of_mem_table {entity : Char × Text} (h : entity ∈ table) :
    ∃ name, entity.2 = '&' :: name ∧ Unmarked name := by
  simp only [table, List.mem_cons, List.not_mem_nil, or_false] at h
  rcases h with rfl | rfl | rfl | rfl <;> exact ⟨_, rfl, by decide⟩

/-! ## Whole texts -/

theorem escape_cons (c : Char) (t : Text) : escape (c :: t) = escapeChar c ++ escape t :=
  List.flatMap_cons

@[simp] theorem escape_append (a b : Text) : escape (a ++ b) = escape a ++ escape b :=
  List.flatMap_append

theorem escape_singleton (c : Char) : escape [c] = escapeChar c := List.flatMap_singleton ..

theorem escape_flatten (parts : List Text) :
    escape parts.flatten = (parts.map escape).flatten := by
  induction parts with
  | nil => rfl
  | cons t parts ih =>
    rw [List.flatten_cons, escape_append, ih, List.map_cons, List.flatten_cons]

theorem escape_cons_of_unmarked {c : Char} (h : Unmarked [c]) (t : Text) :
    escape (c :: t) = c :: escape t := by
  rw [escape_cons, escapeChar_of_unmarked h, List.singleton_append]

/-- A text without markup is its own escaped form. -/
theorem escape_eq_self {t : Text} (h : Unmarked t) : escape t = t := by
  induction t with
  | nil => rfl
  | cons c t ih =>
    obtain ⟨hc, ht⟩ := unmarked_cons.mp h
    rw [escape_cons_of_unmarked hc, ih ht]

/-- Escaping does not make a text shorter. -/
theorem length_le_length_escape (t : Text) : t.length ≤ (escape t).length := by
  induction t with
  | nil => exact Nat.le_refl 0
  | cons c t ih =>
    have hc : 1 ≤ (escapeChar c).length := by
      rcases mem_table_or_unmarked c with ⟨entity, hmem, rfl⟩ | h
      · obtain ⟨name, hname, -⟩ := exists_cons_of_mem_table hmem
        rw [escapeChar_of_mem_table hmem, hname, List.length_cons]
        exact Nat.le_add_left ..
      · rw [escapeChar_of_unmarked h]
        exact Nat.le_refl 1
    rw [escape_cons, List.length_append, List.length_cons]
    omega

/-! ## Well-escaped texts -/

theorem wellEscaped_of_unmarked {t : Text} (h : Unmarked t) : WellEscaped t := by
  refine ⟨h.clean, fun before after ht => ?_⟩
  exact absurd rfl (h '&' (by simp [ht])).1

theorem WellEscaped.append {a b : Text} (ha : WellEscaped a) (hb : WellEscaped b) :
    WellEscaped (a ++ b) := by
  refine ⟨clean_append.mpr ⟨ha.1, hb.1⟩, fun before after h => ?_⟩
  rcases List.append_eq_append_iff.mp h with ⟨middle, rfl, rfl⟩ | ⟨middle, rfl, hmiddle⟩
  · exact hb.2 middle after rfl
  · match middle, hmiddle with
    | [], hmiddle => exact hb.2 [] after hmiddle.symm
    | c :: middle, hmiddle =>
      obtain ⟨rfl, rfl⟩ := List.cons.inj hmiddle
      obtain ⟨entity, hmem, hprefix⟩ := ha.2 before middle rfl
      exact ⟨entity, hmem, hprefix.trans ⟨b, rfl⟩⟩

/-- What stands behind any point of a well-escaped text is well-escaped, a point inside an entity
included. -/
theorem WellEscaped.of_append {a b : Text} (h : WellEscaped (a ++ b)) : WellEscaped b :=
  ⟨(clean_append.mp h.1).2, fun before after hb =>
    h.2 (a ++ before) after (by rw [hb, List.append_assoc])⟩

theorem wellEscaped_escapeChar (c : Char) : WellEscaped (escapeChar c) := by
  rcases mem_table_or_unmarked c with ⟨entity, hmem, rfl⟩ | h
  · obtain ⟨name, hname, hunmarked⟩ := exists_cons_of_mem_table hmem
    rw [escapeChar_of_mem_table hmem, hname]
    refine ⟨fun d hd => ?_, fun before after h => ?_⟩
    · rcases List.mem_cons.mp hd with rfl | hd
      · decide
      · exact hunmarked.clean d hd
    · match before, h with
      | [], h => exact ⟨entity, hmem, by rw [hname, h, List.nil_append]⟩
      | d :: before, h =>
        -- a second `&` would be one of the characters of the name
        have hamp : '&' ∈ name := by
          rw [(List.cons.inj h).2]
          simp
        exact absurd rfl (hunmarked '&' hamp).1
  · rw [escapeChar_of_unmarked h]
    exact wellEscaped_of_unmarked h

/-- Escaped forms are well-escaped. -/
theorem wellEscaped_escape (t : Text) : WellEscaped (escape t) := by
  induction t with
  | nil => exact wellEscaped_of_unmarked unmarked_nil
  | cons c t ih =>
    rw [escape_cons]
    exact (wellEscaped_escapeChar c).append ih

/-- A well-escaped text begins with a character that is not markup or with an entity. -/
theorem WellEscaped.head {c : Char} {t : Text} (h : WellEscaped (c :: t)) :
    Unmarked [c] ∨ ∃ entity ∈ table, entity.2 <+: c :: t := by
  by_cases hc : c = '&'
  · subst hc
    exact Or.inr (h.2 [] t rfl)
  · refine Or.inl fun d hd => ?_
    rw [List.mem_singleton.mp hd]
    exact ⟨hc, h.1 c List.mem_cons_self⟩

/-- A property that ends of texts inherit, and that makes a text begin with a character that has it
alone or with an entity, takes a text apart from the left by characters and entities. -/
theorem induction_by_entities {P : Text → Prop} (of_append : ∀ {a b : Text}, P (a ++ b) → P b)
    (head : ∀ {c : Char} {t : Text}, P (c :: t) → P [c] ∨ ∃ e ∈ table, e.2 <+: c :: t)
    {motive : Text → Prop} (nil : motive [])
    (char : ∀ c t, P [c] → P t → motive t → motive (c :: t))
    (entity : ∀ e ∈ table, ∀ t, P t → motive t → motive (e.2 ++ t)) {t : Text} (h : P t) :
    motive t := by
  -- on the length: an entity is taken off as a whole
  induction hn : t.length using Nat.strong_induction_on generalizing t with
  | _ n ih =>
    subst hn
    match t, h with
    | [], _ => exact nil
    | c :: t, h =>
      have ht : P t := of_append (a := [c]) h
      rcases head h with hc | ⟨e, he, rest, hrest⟩
      · exact char c t hc ht (ih t.length (Nat.lt_succ_self _) ht rfl)
      · rw [← hrest] at h ih ⊢
        have hlt : rest.length < (e.2 ++ rest).length := by
          obtain ⟨name, hname, -⟩ := exists_cons_of_mem_table he
          rw [hname, List.length_append, List.length_cons]
          omega
        exact entity e he rest (of_append h) (ih rest.length hlt (of_append h) rfl)

/-- The well-escaped texts are the escaped forms. -/
theorem wellEscaped_iff_exists_escape {t : Text} : WellEscaped t ↔ ∃ r, escape r = t := by
  constructor
  · intro h
    refine induction_by_entities (motive := fun t => ∃ r, escape r = t) WellEscaped.of_append
      (fun h => h.head.imp_left wellEscaped_of_unmarked) ⟨[], rfl⟩ ?_ ?_ h
    · rintro c _ hc - ⟨r, rfl⟩
      have hunmarked : Unmarked [c] := by
        rcases hc.head with hc | ⟨e, he, hprefix⟩
        · exact hc
        · -- no entity is a single character
          have hlength := hprefix.length_le
          simp only [table, List.mem_cons, List.not_mem_nil, or_false] at he
          rcases he with rfl | rfl | rfl | rfl <;> exact absurd hlength (by simp)
      exact ⟨c :: r, escape_cons_of_unmarked hunmarked r⟩
    · rintro e he _ - ⟨r, rfl⟩
      exact ⟨e.1 :: r, by rw [escape_cons, escapeChar_of_mem_table he]⟩
  · rintro ⟨r, rfl⟩
    exact wellEscaped_escape r

theorem clean_escape (t : Text) : Clean (escape t) := (wellEscaped_escape t).1

end EscapeOnce.Entity
