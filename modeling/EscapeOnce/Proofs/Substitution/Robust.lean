import EscapeOnce.Proofs.Substitution.Fill
import EscapeOnce.Proofs.Substitution.Operand
import EscapeOnce.Proofs.Template.Runs
import EscapeOnce.Proofs.Text.Quoted

/-!
# What substitution makes of a safe template

A filled in template has every robust property of the template and of the safe texts that its fields
reach (`Brace.robust_substitute`, `Percent.robust_substitute`).  Whatever else the arguments are,
what is shown of them is escaped, and cutting or padding it leaves it so.
-/

namespace EscapeOnce

open Entity Outcome

section

variable {P : Text → Prop} (hP : Robust P)
include hP

/-! ## Operands -/

namespace Operand

/-- The text of an operand is escaped, or it is a safe buffer. -/
theorem robust_toText {v : Value} {t : Text} (hv : ∀ u, v = .safe u → P u.buffer)
    (h : (ofValue v).toText = .ok t) : P t := by
  match hsafe : v.isSafe with
  | true =>
    cases v <;> cases hsafe
    cases h
    exact hv _ rfl
  | false =>
    rw [toText_ofValue hsafe] at h
    obtain ⟨r, -, rfl⟩ := map_eq_ok.mp h
    exact hP.escape r

theorem robust_toRepresentation {v : Value} {t : Text} (hv : ∀ u, v = .safe u → P u.buffer)
    (h : (ofValue v).toRepresentation = .ok t) : P t := by
  match hsafe : v.isSafe with
  | true =>
    cases v <;> cases hsafe
    cases h
    exact hP.trustedRepresentation (hv _ rfl)
  | false =>
    rw [toRepresentation_ofValue hsafe] at h
    obtain ⟨r, -, rfl⟩ := map_eq_ok.mp h
    exact hP.escape r

end Operand

theorem Specifier.robust_layoutText {s : Specifier} {t typeName laid : Text}
    (hfill : ∀ c ∈ s.fill, P [c]) (ht : P t)
    (h : MarkupError.ofFormat (s.layoutText t typeName) = .ok laid) : P laid := by
  refine hP.layoutPieces hfill ?_ (fun n => hP.take n ht) (MarkupError.ofFormat_eq_ok.mp h)
  rwa [Visible.flatten_tokens]

theorem Specifier.robust_layoutNumber {s : Specifier} {n : Number} {laid : Text}
    (hfill : ∀ c ∈ s.fill, P [c]) (h : s.layoutNumber n = .ok laid) : P laid :=
  hP.layoutNumber hfill (fun c => escape_singleton c ▸ hP.escape [c]) h

/-- What an operand shows in a field is robust, whatever the conversion and the layout. -/
theorem Operand.robust_render {v : Value} {conversion : Option Form} {s : Specifier} {t : Text}
    (hv : ∀ u, v = .safe u → P u.buffer) (hfill : ∀ c ∈ s.fill, P [c])
    (h : (ofValue v).render conversion s = .ok t) : P t := by
  unfold render at h
  split at h
  · exact Specifier.robust_layoutNumber hP hfill (MarkupError.ofFormat_eq_ok.mp h)
  · obtain ⟨r, hr, h⟩ := bind_eq_ok.mp h
    exact Specifier.robust_layoutText hP hfill (robust_toRepresentation hP hv hr) h
  · obtain ⟨r, hr, h⟩ := bind_eq_ok.mp h
    exact Specifier.robust_layoutText hP hfill (robust_toText hP hv hr) h

/-- What an operand shows in a directive is robust, whatever the conversion and the layout. -/
theorem Directive.robust_render {d : Directive} {v : Value} {t : Text}
    (hv : ∀ u, v = .safe u → P u.buffer) (h : d.render (.ofValue v) = .ok t) : P t := by
  have hfill : ∀ c ∈ d.textSpecifier.fill, P [c] := fun c hc => absurd hc (Option.not_mem_none c)
  unfold render at h
  split at h
  · obtain ⟨r, hr, h⟩ := bind_eq_ok.mp h
    exact Specifier.robust_layoutText hP hfill (Operand.robust_toText hP hv hr) h
  · split at h
    · obtain ⟨r, hr, h⟩ := bind_eq_ok.mp h
      exact Specifier.robust_layoutText hP hfill (Operand.robust_toRepresentation hP hv hr) h
    · split at h
      · obtain ⟨c, -, h⟩ := bind_eq_ok.mp h
        exact Specifier.robust_layoutText hP hfill (escape_singleton c ▸ hP.escape [c]) h
      · split at h
        · obtain ⟨m, -, h⟩ := bind_eq_ok.mp (MarkupError.ofFormat_eq_ok.mp h)
          split at h
          · cases h
          · exact Specifier.robust_layoutNumber hP (fun c hc => absurd hc (Option.not_mem_none c)) h
        · cases h
        · cases h

/-! ## Templates of fields -/

namespace Brace

omit hP in
theorem LooksUp.behind {render : Value → Field → Except MarkupError Text} {args : List Value}
    {named : Dict Value} {numbering : Numbering} {rest : Script Field} {w : Value} (run : Text)
    (h : LooksUp render args named numbering rest w) :
    LooksUp render args named numbering (rest.behind run) w := by
  induction run with
  | nil => exact h
  | cons c run ih => exact .behindLiteral ih

/-- What is filled in has every robust property of the runs of the template, of the fills of its
fields and of the safe texts that they reach. -/
theorem robust_fill {args : List Value} {named : Dict Value} {script : Script Field}
    {numbering : Numbering} {t : Text}
    (hruns : script.Runs P fun field => ∀ c ∈ field.specifier.fill, P [c])
    (hsafe : ∀ u, LooksUp renderField args named numbering script (.safe u) → P u.buffer)
    (h : fill renderField args named numbering script = .ok t) : P t := by
  induction hruns generalizing numbering t with
  | done =>
    cases h
    exact hP.nil
  | fault error => cases h
  | @behind run rest hrun _ ih =>
    rw [fill_behind] at h
    obtain ⟨others, hothers, rfl⟩ := map_eq_ok.mp h
    exact hP.append hrun (ih (fun u hu => hsafe u (hu.behind run)) hothers)
  | @directive field rest hfield _ ih =>
    rw [fill_directive] at h
    obtain ⟨⟨v, after⟩, hfound, h⟩ := bind_eq_ok.mp h
    obtain ⟨first, hfirst, h⟩ := bind_eq_ok.mp h
    obtain ⟨others, hothers, rfl⟩ := map_eq_ok.mp h
    have hargument := MarkupError.ofFormat_eq_ok.mp hfound
    refine hP.append ?_ (ih (fun u hu => hsafe u (.behindField hargument hfirst hu)) hothers)
    rw [renderField, Operand.follow_ofValue, bind_map] at hfirst
    obtain ⟨w, hw, hrender⟩ := bind_eq_ok.mp hfirst
    refine Operand.robust_render hP (fun u hu => ?_) hfield hrender
    exact hsafe u (.here hargument (hu ▸ MarkupError.ofFormat_eq_ok.mp hw))

theorem robust_substitute {template : Text} {args : List Value} {named : Dict Value} {t : Text}
    (htemplate : P template)
    (hsafe : ∀ u, LooksUp renderField args named .unset (Field.script template) (.safe u) →
      P u.buffer)
    (h : substitute template args named = .ok t) : P t :=
  robust_fill hP (Field.runs_script hP htemplate) hsafe h

end Brace

/-! ## Templates of directives -/

namespace Percent

omit hP in
theorem LooksUp.behind {render : Value → Directive → Except MarkupError Text} {args : Arguments}
    {rest : Script Directive} {w : Value} (run : Text) (h : LooksUp render args rest w) :
    LooksUp render args (rest.behind run) w := by
  induction run with
  | nil => exact h
  | cons c run ih => exact .behindLiteral ih

/-- What is filled in has every robust property of the runs of the template and of the safe texts
that its directives take. -/
theorem robust_fill {args : Arguments} {script : Script Directive} {t : Text}
    (hruns : script.Runs P fun _ => True)
    (hsafe : ∀ u, LooksUp renderDirective args script (.safe u) → P u.buffer)
    (h : fill renderDirective args script = .ok t) : P t := by
  induction hruns generalizing args t with
  | done =>
    obtain ⟨_, -, h⟩ := bind_eq_ok.mp h
    cases h
    exact hP.nil
  | fault error => cases h
  | @behind run rest hrun _ ih =>
    rw [fill_behind] at h
    obtain ⟨others, hothers, rfl⟩ := map_eq_ok.mp h
    exact hP.append hrun (ih (fun u hu => hsafe u (hu.behind run)) hothers)
  | @directive d rest _ _ ih =>
    rw [fill_directive] at h
    obtain ⟨⟨v, after⟩, hfound, h⟩ := bind_eq_ok.mp h
    obtain ⟨first, hfirst, h⟩ := bind_eq_ok.mp h
    obtain ⟨others, hothers, rfl⟩ := map_eq_ok.mp h
    have hargument := MarkupError.ofFormat_eq_ok.mp hfound
    refine hP.append ?_ (ih (fun u hu => hsafe u (.behindDirective hargument hfirst hu)) hothers)
    refine d.robust_render hP (fun u hu => ?_) hfirst
    obtain rfl : v = .safe u := hu
    exact hsafe u (.here hargument)

theorem robust_substitute {template : Text} {args : Arguments} {t : Text} (htemplate : P template)
    (hsafe : ∀ u, LooksUp renderDirective args (Directive.script template) (.safe u) → P u.buffer)
    (h : substitute template args = .ok t) : P t :=
  robust_fill hP (Directive.runs_script hP htemplate) hsafe h

end Percent

end

end EscapeOnce
