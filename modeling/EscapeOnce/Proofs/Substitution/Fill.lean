import EscapeOnce.Brace.Substitution
import EscapeOnce.Percent.Substitution
import EscapeOnce.Proofs.Outcome
import EscapeOnce.Proofs.Template.Reading

/-!
# Filling in a template, one step at a time

A filled in template is a literal character, or what its first directive gives, in front of the rest
of the template filled in (`Brace.fill_literal`, `Brace.fill_directive` and the same of percent
templates).

A substitution looks up one value for each field or directive that it comes to, and it comes to the
next one only if the one before was filled in.  `Brace.LooksUp` and `Percent.LooksUp` follow the run
from its state: what has been numbered so far, or which arguments are left.

What can be said of a filled in template depends on its arguments only through these values: an
argument that no field asks for, or one that is asked for behind a failure, has no part in it.
-/

namespace EscapeOnce

namespace Script

variable {δ : Type}

/-- The literal characters of a template in order. -/
def literals : Script δ → Text
  | done => []
  | fault _ => []
  | literal c rest => c :: rest.literals
  | directive _ rest => rest.literals

end Script

/-- The entry of a dictionary under exactly this key. -/
def Dict.entry (d : Dict Value) (key : Text) : Except FormatError Value :=
  match d.get? key with
  | some v => .ok v
  | none => .error (.missingKey key)

namespace Brace

section Steps

variable (render : Value → Field → Except MarkupError Text) (args : List Value)
  (named : Dict Value) (numbering : Numbering)

/-- A named field is none of the numbered ones. -/
theorem argument_name (key : Text) :
    argument args named numbering (.name key) = (Dict.entry named key).map (·, numbering) := by
  rw [argument, Dict.entry]
  cases named.get? key <;> rfl

/-- A field numbered by turns takes the argument whose turn it is. -/
theorem argument_automatic {k : Nat} (h : numbering.next = .ok k) :
    argument args named numbering .automatic =
      (positional args k).map (·, .automatic (k + 1)) := by
  rw [argument, h]
  rfl

theorem fill_literal (c : Char) (rest : Script Field) :
    fill render args named numbering (.literal c rest) =
      (fill render args named numbering rest).map (c :: ·) := by
  rw [fill]
  cases fill render args named numbering rest <;> rfl

/-- A run of literal text is filled in as it stands. -/
theorem fill_behind (run : Text) (rest : Script Field) :
    fill render args named numbering (rest.behind run) =
      (fill render args named numbering rest).map (run ++ ·) := by
  induction run with
  | nil => cases h : fill render args named numbering rest <;> simp [Script.behind, h, Except.map]
  | cons c run ih =>
    refine (fill_literal render args named numbering c _).trans ?_
    rw [← Script.behind, ih, Outcome.map_map]
    rfl

theorem fill_directive (field : Field) (rest : Script Field) :
    fill render args named numbering (.directive field rest) =
      MarkupError.ofFormat (argument args named numbering field.argument) >>= fun found =>
        render found.1 field >>= fun first =>
          (fill render args named found.2 rest).map (first ++ ·) := by
  rw [fill]
  refine Outcome.bind_congr fun found _ => Outcome.bind_congr fun first _ => ?_
  cases fill render args named found.2 rest <;> rfl

/-- A template that has been filled in begins with what its first field shows. -/
theorem fill_directive_eq_ok {field : Field} {rest : Script Field} {t : Text} :
    fill render args named numbering (.directive field rest) = .ok t ↔
      ∃ v after first others, argument args named numbering field.argument = .ok (v, after) ∧
        render v field = .ok first ∧ fill render args named after rest = .ok others ∧
        first ++ others = t := by
  rw [fill_directive]
  constructor
  · intro h
    obtain ⟨⟨v, after⟩, hargument, h⟩ := Outcome.bind_eq_ok.mp h
    obtain ⟨first, hfirst, h⟩ := Outcome.bind_eq_ok.mp h
    obtain ⟨others, hothers, h⟩ := Outcome.map_eq_ok.mp h
    exact ⟨v, after, first, others, MarkupError.ofFormat_eq_ok.mp hargument, hfirst, hothers, h⟩
  · rintro ⟨v, after, first, others, hargument, hfirst, hothers, rfl⟩
    rw [hargument]
    show (render v field >>= fun first => (fill render args named after rest).map (first ++ ·)) = _
    rw [hfirst, hothers]
    rfl

/-- A template of a single field is what the field shows of its argument. -/
theorem fill_sole_directive (field : Field) :
    fill render args named numbering (.directive field .done) =
      MarkupError.ofFormat (argument args named numbering field.argument) >>= fun found =>
        render found.1 field := by
  rw [fill_directive]
  exact Outcome.bind_congr fun _ _ => Outcome.bind_append_nil

end Steps

/-- Filling in a template from a state of numbering reaches a value by following the accessors of
one of its fields. -/
inductive LooksUp (render : Value → Field → Except MarkupError Text) (args : List Value)
    (named : Dict Value) : Numbering → Script Field → Value → Prop
  /-- The next field reaches it. -/
  | here {numbering after : Numbering} {field : Field} {rest : Script Field} {v w : Value}
      (found : argument args named numbering field.argument = .ok (v, after))
      (reached : v.follow field.accessors = .ok w) :
      LooksUp render args named numbering (.directive field rest) w
  /-- A field behind a literal character reaches it. -/
  | behindLiteral {numbering : Numbering} {c : Char} {rest : Script Field} {w : Value}
      (later : LooksUp render args named numbering rest w) :
      LooksUp render args named numbering (.literal c rest) w
  /-- A field behind one that has been filled in reaches it. -/
  | behindField {numbering after : Numbering} {field : Field} {rest : Script Field} {v w : Value}
      {t : Text} (found : argument args named numbering field.argument = .ok (v, after))
      (rendered : render v field = .ok t) (later : LooksUp render args named after rest w) :
      LooksUp render args named numbering (.directive field rest) w

end Brace

namespace Percent

section Steps

variable (render : Value → Directive → Except MarkupError Text) (args : Arguments)

theorem fill_literal (c : Char) (rest : Script Directive) :
    fill render args (.literal c rest) = (fill render args rest).map (c :: ·) := by
  rw [fill]
  cases fill render args rest <;> rfl

/-- A run of literal text is filled in as it stands. -/
theorem fill_behind (run : Text) (rest : Script Directive) :
    fill render args (rest.behind run) = (fill render args rest).map (run ++ ·) := by
  induction run with
  | nil => cases h : fill render args rest <;> simp [Script.behind, h, Except.map]
  | cons c run ih =>
    refine (fill_literal render args c _).trans ?_
    rw [← Script.behind, ih, Outcome.map_map]
    rfl

theorem fill_directive (d : Directive) (rest : Script Directive) :
    fill render args (.directive d rest) =
      MarkupError.ofFormat (argument args d.key) >>= fun found =>
        render found.1 d >>= fun first => (fill render found.2 rest).map (first ++ ·) := by
  rw [fill]
  refine Outcome.bind_congr fun found _ => Outcome.bind_congr fun first _ => ?_
  cases fill render found.2 rest <;> rfl

/-- A template that has been filled in begins with what its first directive shows. -/
theorem fill_directive_eq_ok {d : Directive} {rest : Script Directive} {t : Text} :
    fill render args (.directive d rest) = .ok t ↔
      ∃ v after first others, argument args d.key = .ok (v, after) ∧ render v d = .ok first ∧
        fill render after rest = .ok others ∧ first ++ others = t := by
  rw [fill_directive]
  constructor
  · intro h
    obtain ⟨⟨v, after⟩, hargument, h⟩ := Outcome.bind_eq_ok.mp h
    obtain ⟨first, hfirst, h⟩ := Outcome.bind_eq_ok.mp h
    obtain ⟨others, hothers, h⟩ := Outcome.map_eq_ok.mp h
    exact ⟨v, after, first, others, MarkupError.ofFormat_eq_ok.mp hargument, hfirst, hothers, h⟩
  · rintro ⟨v, after, first, others, hargument, hfirst, hothers, rfl⟩
    rw [hargument]
    show (render v d >>= fun first => (fill render after rest).map (first ++ ·)) = _
    rw [hfirst, hothers]
    rfl

/-- A template of a single directive without a key is what the directive shows of its argument. -/
theorem fill_sole_directive {d : Directive} (h : d.key = none) (v : Value) :
    fill render (.positional [v]) (.directive d .done) = render v d := by
  rw [fill_directive, h]
  exact Outcome.bind_append_nil

end Steps

/-- Filling in a template with these arguments takes a value for one of its directives. -/
inductive LooksUp (render : Value → Directive → Except MarkupError Text) :
    Arguments → Script Directive → Value → Prop
  /-- The next directive takes it. -/
  | here {args after : Arguments} {d : Directive} {rest : Script Directive} {v : Value}
      (found : argument args d.key = .ok (v, after)) : LooksUp render args (.directive d rest) v
  /-- A directive behind a literal character takes it. -/
  | behindLiteral {args : Arguments} {c : Char} {rest : Script Directive} {w : Value}
      (later : LooksUp render args rest w) : LooksUp render args (.literal c rest) w
  /-- A directive behind one that has been filled in takes it. -/
  | behindDirective {args after : Arguments} {d : Directive} {rest : Script Directive}
      {v w : Value} {t : Text} (found : argument args d.key = .ok (v, after))
      (rendered : render v d = .ok t) (later : LooksUp render after rest w) :
      LooksUp render args (.directive d rest) w

end Percent

end EscapeOnce
