import EscapeOnce.Proofs.Substitution.Concatenation
import EscapeOnce.Proofs.Template.Numbered
import EscapeOnce.Proofs.Text.Slice
import EscapeOnce.SafeText.Operations

/-!
# Numbering by turns is numbering by hand

A field that takes the next argument does what a field with its turn for an index does: it looks at
the same place, and a place without an argument is the same error.  So a template without indices is
filled in as the one with its turns written into it, with the same text or the same error.  The two
runs go through the same values in different states of the numbering.  What they have in common is
the next turn of the one and that the other counts none (`Brace.fill_indexed`).

The two ways of numbering exclude each other.  From its first numbered field on a run is in one of
two states, and each of them refuses the fields of the other kind and is never left
(`Brace.forall_directives_of_fill_eq_ok` is what a state that is kept says of all fields of a run).
So nothing is filled in that has fields of both kinds, wherever they stand, nor anything that cannot
be read to its end.
-/

namespace EscapeOnce

open Outcome

namespace Brace

variable {args : List Value} {named : Dict Value}

/-! ## The same run by turns and by hand -/

/-- The induction is on the template, from any turn. -/
theorem fill_indexed {n m : Numbering} {k : Nat} (hn : n.next = .ok k) (hm : m.IsFixed)
    {s : Script Field} (h : ∀ field ∈ s.directives, ∀ i, field.argument ≠ .index i) :
    fill renderField args named m (s.indexed k) = fill renderField args named n s := by
  induction s generalizing n m k with
  | done => rfl
  | fault error => rfl
  | literal c rest ih =>
    rw [Script.indexed, fill_literal, fill_literal, ih hn hm h]
  | directive field rest ih =>
    obtain ⟨hfield, hrest⟩ := List.forall_mem_cons.mp h
    rw [Script.indexed]
    cases hname : field.argument with
    | index i => exact absurd hname (hfield i)
    | automatic =>
      rw [if_pos rfl, fill_directive, fill_directive, hname, argument_index_of_isFixed args hm,
        argument_automatic args named n hn, MarkupError.ofFormat_map, MarkupError.ofFormat_map,
        Outcome.bind_map, Outcome.bind_map]
      refine bind_congr fun v _ => bind_congr fun first _ => congrArg (Except.map (first ++ ·)) ?_
      exact ih rfl (Or.inr rfl) hrest
    | name key =>
      rw [if_neg (by simp), fill_directive, fill_directive, hname, argument_name, argument_name,
        MarkupError.ofFormat_map, MarkupError.ofFormat_map, Outcome.bind_map, Outcome.bind_map]
      refine bind_congr fun v _ => bind_congr fun first _ => congrArg (Except.map (first ++ ·)) ?_
      exact ih hn hm hrest

/-! ## Two ways that exclude each other -/

section

variable {render : Value → Field → Except MarkupError Text}

/-- What holds of the numbering at the start and is kept by each field that finds its argument lets
a run succeed only over fields of which it allows the argument. -/
theorem forall_directives_of_fill_eq_ok {P : Numbering → Prop} {Q : ArgumentName → Prop}
    (hstep : ∀ n name v after, P n → argument args named n name = .ok (v, after) → Q name ∧ P after)
    {n : Numbering} (hn : P n) {s : Script Field} {o : Text}
    (h : fill render args named n s = .ok o) :
    ∀ field ∈ s.directives, Q field.argument := by
  induction s generalizing n o with
  | done => exact fun field hfield => absurd hfield List.not_mem_nil
  | fault error => cases h
  | literal c rest ih =>
    rw [fill_literal] at h
    obtain ⟨others, hothers, -⟩ := map_eq_ok.mp h
    exact ih hn hothers
  | directive field rest ih =>
    obtain ⟨v, after, first, others, hargument, -, hothers, -⟩ :=
      (fill_directive_eq_ok render args named n).mp h
    obtain ⟨hQ, hafter⟩ := hstep n field.argument v after hn hargument
    exact List.forall_mem_cons.mpr ⟨hQ, ih hafter hothers⟩

/-- Behind a field with an index no field is numbered by turns. -/
theorem ne_automatic_of_fill_eq_ok {s : Script Field} {o : Text}
    (h : fill render args named .manual s = .ok o) :
    ∀ field ∈ s.directives, field.argument ≠ .automatic := by
  refine forall_directives_of_fill_eq_ok (P := (· = .manual)) (Q := (· ≠ .automatic)) ?_ rfl h
  rintro n name v after rfl hargument
  obtain rfl := eq_behind_of_argument_eq_ok args named hargument
  cases name with
  | automatic => cases hargument
  | name key => exact ⟨by simp, rfl⟩
  | index i => exact ⟨by simp, rfl⟩

/-- Behind a field numbered by turns no field has an index. -/
theorem ne_index_of_fill_eq_ok {next : Nat} {s : Script Field} {o : Text}
    (h : fill render args named (.automatic next) s = .ok o) :
    ∀ field ∈ s.directives, ∀ i, field.argument ≠ .index i := by
  refine forall_directives_of_fill_eq_ok (P := fun n => ∃ next, n = .automatic next)
    (Q := fun name => ∀ i, name ≠ .index i) ?_ ⟨next, rfl⟩ h
  rintro n name v after ⟨next, rfl⟩ hargument
  obtain rfl := eq_behind_of_argument_eq_ok args named hargument
  cases name with
  | automatic => exact ⟨by simp, next + 1, rfl⟩
  | name key => exact ⟨by simp, next, rfl⟩
  | index i => cases hargument

/-- What is filled in has fields numbered by turns or fields with indices, not both.  The induction
goes up to the first field of either kind. -/
theorem numbered_one_way_of_fill_eq_ok {s : Script Field} {o : Text}
    (h : fill render args named .unset s = .ok o) :
    (∀ field ∈ s.directives, field.argument ≠ .automatic) ∨
      ∀ field ∈ s.directives, ∀ i, field.argument ≠ .index i := by
  induction s generalizing o with
  | done => exact Or.inl fun field hfield => absurd hfield List.not_mem_nil
  | fault error => cases h
  | literal c rest ih =>
    rw [fill_literal] at h
    obtain ⟨others, hothers, -⟩ := map_eq_ok.mp h
    exact ih hothers
  | directive field rest ih =>
    obtain ⟨v, after, first, others, hargument, -, hothers, -⟩ :=
      (fill_directive_eq_ok render args named .unset).mp h
    obtain rfl := eq_behind_of_argument_eq_ok args named hargument
    rw [Script.directives, List.forall_mem_cons, List.forall_mem_cons]
    cases hname : field.argument with
    | name key =>
      rw [hname] at hothers
      exact (ih hothers).imp (⟨by simp, ·⟩) (⟨by simp, ·⟩)
    | automatic =>
      rw [hname] at hothers
      exact Or.inr ⟨by simp, ne_index_of_fill_eq_ok hothers⟩
    | index i =>
      rw [hname] at hothers
      exact Or.inl ⟨by simp, ne_automatic_of_fill_eq_ok hothers⟩

end

end Brace

/-! ## Templates -/

/-- A template that can exist has fewer fields than there are indices. -/
theorem Field.countP_directives_script_le {t : Text} (h : t.utf8Size ≤ SafeText.sizeLimit)
    (p : Field → Bool) : 0 + (script t).directives.countP p ≤ FieldKey.indexLimit := by
  have hcount : (script t).directives.countP p ≤ (script t).directives.length :=
    List.countP_le_length
  have hfields := length_directives_script_le t
  have hsize := t.length_le_utf8Size
  have hlimit : SafeText.sizeLimit ≤ FieldKey.indexLimit := by decide
  omega

/-- A template without indices, of any size that a text can have, is filled in as the template with
its turns written into it: the fields of the latter are those of the former with their turns for
arguments, and the text or the error is the same for all arguments.  A template that has a field
numbered by turns and one with an index is never filled in, and neither is one that cannot be read
to its end. -/
theorem substitute_numbered :
    (∀ t : Text, t.utf8Size ≤ SafeText.sizeLimit →
      (∀ field ∈ (Field.script t).directives, ∀ i, field.argument ≠ .index i) →
      Field.script (Field.numbered 0 t) = (Field.script t).indexed 0 ∧
      ∀ (args : List Value) (named : Dict Value),
        Brace.substitute (Field.numbered 0 t) args named = Brace.substitute t args named) ∧
    ∀ t : Text,
      ((∃ field ∈ (Field.script t).directives, field.argument = .automatic) ∧
        (∃ field ∈ (Field.script t).directives, ∃ i, field.argument = .index i)) ∨
        (Field.script t).fault? ≠ none →
      ∀ (args : List Value) (named : Dict Value),
        ∃ e, Brace.substitute t args named = .error e := by
  constructor
  · intro t hsize hfields
    have hscript := Field.script_numbered (Field.countP_directives_script_le hsize _)
    refine ⟨hscript, fun args named => ?_⟩
    rw [Brace.substitute, Brace.substitute, hscript]
    exact Brace.fill_indexed rfl (Or.inl rfl) hfields
  · intro t ht args named
    cases hsubstitute : Brace.substitute t args named with
    | error e => exact ⟨e, rfl⟩
    | ok o =>
      rcases ht with ⟨⟨f, hf, hautomatic⟩, g, hg, i, hindex⟩ | hfault
      · rcases Brace.numbered_one_way_of_fill_eq_ok hsubstitute with hnone | hnone
        · exact absurd hautomatic (hnone f hf)
        · exact absurd hindex (hnone g hg i)
      · exact absurd (Brace.fault?_eq_none_of_fill_eq_ok _ _ _ hsubstitute) hfault

/-- A named field takes no turn, a doubled brace opens no field, and the numeral stands in front of
a specifier and of an accessor.  In the other template a named field and a doubled brace are between
the two kinds of fields. -/
theorem substitute_numbered_interleaved :
    Field.numbered 0 "{}{n}{:>3}\x7b\x7b{[0]!r}".toList =
      "{0}{n}{1:>3}\x7b\x7b{2[0]!r}".toList ∧
    (∀ (args : List Value) (named : Dict Value),
      Brace.substitute "{0}{n}{1:>3}\x7b\x7b{2[0]!r}".toList args named =
        Brace.substitute "{}{n}{:>3}\x7b\x7b{[0]!r}".toList args named) ∧
    ∀ (args : List Value) (named : Dict Value),
      ∃ e, Brace.substitute "{1}{n}\x7d\x7d{!r}".toList args named = .error e := by
  have hnumbered : Field.numbered 0 "{}{n}{:>3}\x7b\x7b{[0]!r}".toList =
      "{0}{n}{1:>3}\x7b\x7b{2[0]!r}".toList := by decide +kernel
  have hunindexed : ∀ field ∈ (Field.script "{}{n}{:>3}\x7b\x7b{[0]!r}".toList).directives,
      ∀ i, field.argument ≠ .index i := by
    have hall : ∀ field ∈ (Field.script "{}{n}{:>3}\x7b\x7b{[0]!r}".toList).directives,
        field.argument = .automatic ∨ field.argument = .name ['n'] := by decide +kernel
    intro field hfield i
    rcases hall field hfield with h | h <;> simp [h]
  have hsame := (substitute_numbered.1 _ (by decide +kernel) hunindexed).2
  rw [hnumbered] at hsame
  have hautomatic : ∃ field ∈ (Field.script "{1}{n}\x7d\x7d{!r}".toList).directives,
      field.argument = .automatic := by decide +kernel
  have hindex : ∃ field ∈ (Field.script "{1}{n}\x7d\x7d{!r}".toList).directives,
      field.argument = .index 1 := by decide +kernel
  obtain ⟨field, hfield, hone⟩ := hindex
  exact ⟨hnumbered, hsame, substitute_numbered.2 _ (Or.inl ⟨hautomatic, field, hfield, 1, hone⟩)⟩

end EscapeOnce
