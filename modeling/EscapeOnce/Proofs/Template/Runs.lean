import EscapeOnce.Proofs.Entity.Robust
import EscapeOnce.Proofs.Template.Reading

/-!
# Templates as runs of literal text

A template is read into one literal character after the other, but what is known of a safe template
is known of stretches of it: an `&` alone is no escaped text, the entity that it begins is.  So a
script is looked at as runs of literal text with directives between them (`Script.Runs`).

A template with a robust property is made of runs that have it (`Field.runs_script`,
`Directive.runs_script`).  No entity has a brace or a percent sign in it, so a run never stops
inside one, and what stands behind a field or a directive is an end of the template.  A fill
character has the property as well: it stands before an alignment, which no entity has in its second
place, so it cannot be the `&` of an entity.
-/

namespace EscapeOnce

open Entity

namespace Script

variable {δ : Type}

/-- The literal runs of a template have the property `P` and its directives the property `Q`. -/
inductive Runs (P : Text → Prop) (Q : δ → Prop) : Script δ → Prop
  | done : Runs P Q done
  | fault (error : FormatError) : Runs P Q (fault error)
  | behind {run : Text} {rest : Script δ} (hrun : P run) (hrest : Runs P Q rest) :
      Runs P Q (rest.behind run)
  | directive {d : δ} {rest : Script δ} (hd : Q d) (hrest : Runs P Q rest) :
      Runs P Q (directive d rest)

end Script

/-- No entity has an alignment in its second place. -/
theorem Entity.not_prefix_of_align {entity : Char × Text} (h : entity ∈ table) {c d : Char}
    {t : Text} (hd : (Align.ofChar? d).isSome) : ¬ entity.2 <+: c :: d :: t := by
  rintro ⟨rest, hrest⟩
  simp only [table, List.mem_cons, List.not_mem_nil, or_false] at h
  rcases h with rfl | rfl | rfl | rfl <;>
  · obtain ⟨-, rfl, -⟩ := by simpa using hrest
    revert hd
    decide

section

variable {P : Text → Prop} (hP : Robust P)
include hP

/-! ## Fields -/

namespace Field

/-- A fill character has each robust property of what follows the brace of its field. -/
theorem robust_fill {t body rest : Text} {field : Field} (h : P t)
    (hcut : cutBody .name t = .ok (body, rest)) (hparse : parse body = .ok field) :
    ∀ c ∈ field.specifier.fill, P [c] := by
  intro c hc
  obtain ⟨d, tail, ⟨front, rfl⟩, halign⟩ := suffix_of_fill_eq_some hparse hc
  rw [← append_of_cutBody_eq_ok hcut, List.append_assoc] at h
  exact (hP.head (hP.of_append h)).resolve_right fun ⟨_, hentity, hprefix⟩ =>
    not_prefix_of_align hentity halign hprefix

/-- The induction is on the reading of the template; `run` is the literal text already read since
the last field. -/
theorem runs_behind_script (run : Text) {t : Text} (h : P (run ++ t)) :
    ((script t).behind run).Runs P fun field => ∀ c ∈ field.specifier.fill, P [c] := by
  have hopen : ∀ entity ∈ table, '{' ∉ entity.2 := by decide
  have hclose : ∀ entity ∈ table, '}' ∉ entity.2 := by decide
  fun_induction script t generalizing run with
  | case1 =>
    rw [List.append_nil] at h
    exact .behind h .done
  | case2 t ih =>
    rw [← Script.behind_append_singleton]
    refine ih _ (hP.append (hP.append (hP.of_append_cons hopen h) (hP.of_unmarked (by decide))) ?_)
    exact hP.tail (hP.tail (hP.of_append h))
  | case3 t _ e hcut => exact .behind (hP.of_append_cons hopen h) (.fault e)
  | case4 t _ body rest hcut e hparse => exact .behind (hP.of_append_cons hopen h) (.fault e)
  | case5 t _ body rest hcut field hparse ih =>
    have ht : P t := hP.tail (hP.of_append h)
    have hrest : P rest := by
      rw [← append_of_cutBody_eq_ok hcut] at ht
      exact hP.tail (hP.of_append ht)
    exact .behind (hP.of_append_cons hopen h)
      (.directive (robust_fill hP ht hcut hparse) (ih [] hrest))
  | case6 t ih =>
    rw [← Script.behind_append_singleton]
    refine ih _ (hP.append (hP.append (hP.of_append_cons hclose h) (hP.of_unmarked (by decide))) ?_)
    exact hP.tail (hP.tail (hP.of_append h))
  | case7 t _ => exact .behind (hP.of_append_cons hclose h) (.fault _)
  | case8 c t _ _ _ _ ih =>
    rw [← Script.behind_append_singleton]
    exact ih _ (by rwa [List.append_assoc])

/-- The fields of a robust template have robust fills, and the text between them is robust. -/
theorem runs_script {t : Text} (h : P t) :
    (script t).Runs P fun field => ∀ c ∈ field.specifier.fill, P [c] :=
  runs_behind_script hP [] h

end Field

/-! ## Directives -/

namespace Directive

theorem runs_behind_script (run : Text) {t : Text} (h : P (run ++ t)) :
    ((script t).behind run).Runs P fun _ => True := by
  have hpercent : ∀ entity ∈ table, '%' ∉ entity.2 := by decide
  fun_induction script t generalizing run with
  | case1 =>
    rw [List.append_nil] at h
    exact .behind h .done
  | case2 t ih =>
    rw [← Script.behind_append_singleton]
    refine ih _ (hP.append
      (hP.append (hP.of_append_cons hpercent h) (hP.of_unmarked (by decide))) ?_)
    exact hP.tail (hP.tail (hP.of_append h))
  | case3 t _ e hparse => exact .behind (hP.of_append_cons hpercent h) (.fault e)
  | case4 t _ d rest hparse ih =>
    have hrest : P rest := by
      obtain ⟨front, hfront⟩ := cons_suffix_of_parse_eq_ok hparse
      have ht : P t := hP.tail (hP.of_append h)
      rw [← hfront] at ht
      exact hP.tail (hP.of_append ht)
    exact .behind (hP.of_append_cons hpercent h) (.directive trivial (ih [] hrest))
  | case5 c t _ _ ih =>
    rw [← Script.behind_append_singleton]
    exact ih _ (by rwa [List.append_assoc])

/-- The text between the directives of a robust template is robust. -/
theorem runs_script {t : Text} (h : P t) : (script t).Runs P fun _ => True :=
  runs_behind_script hP [] h

end Directive

end

end EscapeOnce
