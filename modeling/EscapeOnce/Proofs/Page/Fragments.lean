import EscapeOnce.Proofs.Page.Run
import EscapeOnce.SafeText.Operations

/-!
# The page of a list of values

A page is the safe forms of its values, one after the other: `pageOf`.  It exists if every value has
a safe form, and otherwise its failure is that of the first value without one
(`pageOf_eq_error_iff`).  The safe form of a value is also the text that it adds to a page of
markup.  So an accumulator in html mode, to which all values are appended, holds exactly this page;
a null, which has an empty safe form, adds no fragment to it.
-/

namespace EscapeOnce

open Outcome

/-- The safe forms of values, one after the other. -/
def pageOf (values : List Value) : Except MarkupError SafeText :=
  (values.mapM Value.toSafe).map SafeText.collect

theorem pageOf_cons (v : Value) (values : List Value) :
    pageOf (v :: values) = v.toSafe >>= fun s => (pageOf values).map (s ++ ·) := by
  rw [pageOf, List.mapM_cons, map_bind]
  refine bind_congr fun s _ => ?_
  rw [pageOf, map_bind, map_map]
  cases values.mapM Value.toSafe <;> rfl

/-- The failure of a page is that of its first value that has no safe form. -/
theorem pageOf_eq_error_iff {values : List Value} {e : MarkupError} :
    pageOf values = .error e ↔
      ∃ before v after, values = before ++ v :: after ∧
        (∀ u ∈ before, ∃ s, u.toSafe = .ok s) ∧ v.toSafe = .error e :=
  eq_error_iff_of_cons Value.toSafe pageOf ⟨_, rfl⟩ pageOf_cons

/-! ## Accumulators -/

/-- The text that a value adds to a page of markup is its safe form. -/
theorem OutputMode.textOf_html (v : Value) : html.textOf v = v.toSafe.map SafeText.buffer := by
  cases v with
  | safe s => rfl
  | _ =>
    rw [textOf, Value.toSafe, map_map]
    · rfl
    all_goals simp

/-- The texts that values add to a page of markup are their page.  Whether a null adds a text does
not show, since its safe form is empty. -/
theorem OutputMode.flatten_textsOf_html (values : List Value) :
    (html.textsOf values).map List.flatten = (pageOf values).map SafeText.buffer := by
  induction values with
  | nil => rfl
  | cons v values ih =>
    rw [html.textsOf_cons, textOf_html, bind_map, pageOf_cons, map_bind, map_bind]
    refine bind_congr fun s hs => ?_
    have hfragment : (if v.isNull then [] else [s.buffer]).flatten = s.buffer := by
      cases v with
      | null =>
        cases hs
        rfl
      | _ => exact List.flatten_singleton
    have happend : ∀ t : SafeText, (s ++ t).buffer = s.buffer ++ t.buffer := fun _ => rfl
    simp only [map_map, List.flatten_append, hfragment, happend]
    rw [← map_map, ih, map_map]

/-- A page put together in an accumulator is the page of its values. -/
theorem Accumulator.finalize_appendAll_empty (values : List Value) :
    ((empty .html).appendAll values).map finalize = (pageOf values).map .html := by
  have hpage := congrArg (Except.map fun t => Rendered.html (.trusted t))
    (OutputMode.flatten_textsOf_html values)
  rw [map_map, map_map] at hpage
  rw [appendAll_eq, map_map]
  exact hpage

end EscapeOnce
