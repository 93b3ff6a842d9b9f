import EscapeOnce.Percent.Substitution
import EscapeOnce.Proofs.Template.Reading

/-!
# What a directive can be refused for

A directive is refused for how it is written, or for what it is to show of its value: a layout that
does not go with the value, a conversion that does not exist, a value that has no text or whose own
conversion fails.  None of this is about the other arguments.  That a value is missing or left over
is found out by the substitution alone, before the directive sees a value or after the last one has.

Each function that a directive runs through has one lemma here, and the one about rendering is put
together from them (`Percent.failsWith_renderDirective`).
-/

namespace EscapeOnce

open Outcome

/-- A directive by itself can be refused for this, or can stop the program with it. -/
def FormatError.OfDirective : FormatError → Prop
  | incomplete | badSpecifier _ | unsupportedConversion _ | typeMismatch _ _ | tooManyPlaces => True
  | _ => False

/-- A directive by itself, or the value that it shows, can be refused for this. -/
def MarkupError.OfDirective : MarkupError → Prop
  | inputType _ _ | conversion _ => True
  | format e => e.OfDirective
  | _ => False

/-! ## Values -/

namespace Value

theorem failsWith_converted (c : EscapeOnce.Conversion) :
    FailsWith MarkupError.OfDirective (converted c) := by
  cases c with
  | ok t => exact failsWith_ok
  | error report => exact failsWith_error trivial

mutual

theorem failsWith_representation : ∀ v : Value, FailsWith MarkupError.OfDirective v.representation
  | null | bool _ | int _ | float _ | str _ | bytes _ | safe _ => by
    rw [representation]
    exact failsWith_ok
  | list items => by
    rw [representation]
    exact (failsWith_representations items).map
  | map entries => by
    rw [representation]
    exact (failsWith_entryRepresentations entries).map
  | object o => by
    rw [representation]
    exact failsWith_converted _

theorem failsWith_representations :
    ∀ items : List Value, FailsWith MarkupError.OfDirective (representations items)
  | [] => by
    rw [representations]
    exact failsWith_ok
  | v :: rest => by
    rw [representations]
    exact (failsWith_representation v).bind fun _ =>
      (failsWith_representations rest).bind fun _ => failsWith_ok

theorem failsWith_entryRepresentations :
    ∀ entries : List (Text × Value),
      FailsWith MarkupError.OfDirective (entryRepresentations entries)
  | [] => by
    rw [entryRepresentations]
    exact failsWith_ok
  | (_, v) :: rest => by
    rw [entryRepresentations]
    exact (failsWith_representation v).bind fun _ =>
      (failsWith_entryRepresentations rest).bind fun _ => failsWith_ok

end

theorem failsWith_stringify (v : Value) : FailsWith MarkupError.OfDirective v.stringify := by
  unfold stringify
  split
  · exact failsWith_ok
  · exact failsWith_ok
  · exact failsWith_error trivial
  · exact failsWith_ok
  · split <;> exact failsWith_converted _
  all_goals exact failsWith_representation _

end Value

namespace Operand

theorem failsWith_toText (o : Operand) : FailsWith MarkupError.OfDirective o.toText := by
  cases o with
  | trusted buffer => exact failsWith_ok
  | number n => exact failsWith_ok
  | quoted v => exact v.failsWith_stringify.map

theorem failsWith_toRepresentation (o : Operand) :
    FailsWith MarkupError.OfDirective o.toRepresentation := by
  cases o with
  | trusted buffer => exact failsWith_ok
  | number n => exact failsWith_ok
  | quoted v => exact v.failsWith_representation.map

end Operand

/-! ## Layouts -/

namespace Specifier

theorem failsWith_readNumber (shown t : Text) :
    FailsWith FormatError.OfDirective (readNumber shown t) := by
  rw [readNumber]
  split
  · exact failsWith_ok
  · split
    · exact failsWith_error trivial
    · exact failsWith_ok

theorem failsWith_layoutText (s : Specifier) (t typeName : Text) :
    FailsWith FormatError.OfDirective (s.layoutText t typeName) := by
  unfold layoutText layoutPieces
  split
  case h_3 => exact failsWith_error trivial
  all_goals
    split
    · exact failsWith_error trivial
    · split
      · exact failsWith_error trivial
      · exact failsWith_ok

theorem failsWith_layoutCharacter (s : Specifier) (code : Int64) :
    FailsWith FormatError.OfDirective (s.layoutCharacter code) := by
  rw [layoutCharacter]
  split
  · exact failsWith_ok
  · exact failsWith_error trivial

theorem failsWith_layoutFigure (s : Specifier) (n : Number) :
    FailsWith FormatError.OfDirective (s.layoutFigure n) := by
  rw [layoutFigure]
  split
  · exact failsWith_ok
  · exact failsWith_error trivial

theorem failsWith_layoutNumber (s : Specifier) (n : Number) :
    FailsWith FormatError.OfDirective (s.layoutNumber n) := by
  unfold layoutNumber
  split
  · exact failsWith_error trivial
  · split
    · exact failsWith_error trivial
    · split
      · exact failsWith_error trivial
      · exact s.failsWith_layoutCharacter _
      · split
        · exact failsWith_error trivial
        · exact s.failsWith_layoutFigure _
      · exact s.failsWith_layoutFigure _

end Specifier

/-! ## Directives -/

namespace Directive

theorem failsWith_readKey (t : Text) : FailsWith FormatError.OfDirective (readKey t) := by
  unfold readKey
  split
  · split
    · exact failsWith_ok
    · exact failsWith_error trivial
  · exact failsWith_ok

theorem failsWith_readPrecision (t : Text) :
    FailsWith FormatError.OfDirective (readPrecision t) := by
  unfold readPrecision
  split
  · exact (Specifier.failsWith_readNumber _ _).bind fun _ => failsWith_ok
  · exact failsWith_ok

theorem failsWith_readConversion (t : Text) :
    FailsWith FormatError.OfDirective (readConversion t) := by
  unfold readConversion
  split
  · exact failsWith_error trivial
  · exact failsWith_error trivial
  · exact failsWith_ok

theorem failsWith_parse (t : Text) : FailsWith FormatError.OfDirective (parse t) :=
  (failsWith_readKey t).bind fun _ => (Specifier.failsWith_readNumber _ _).bind fun _ =>
    (failsWith_readPrecision _).bind fun _ => (failsWith_readConversion _).bind fun _ =>
      failsWith_ok

/-- A template that cannot be read to its end has a directive there that cannot be read. -/
theorem ofDirective_of_fault?_script {t : Text} {e : FormatError} (h : (script t).fault? = some e) :
    e.OfDirective := by
  induction t using script.induct with
  | case1 =>
    rw [script] at h
    cases h
  | case2 t ih =>
    rw [script] at h
    exact ih h
  | case3 t hhead other hparse =>
    rw [script_of_parse_eq_error (Text.head?_ne_of_forall_ne_cons hhead) hparse] at h
    cases h
    exact failsWith_parse t e hparse
  | case4 t hhead d rest hparse ih =>
    rw [script_of_parse_eq_ok (Text.head?_ne_of_forall_ne_cons hhead) hparse] at h
    exact ih h
  | case5 c t _ hc ih =>
    rw [script_cons_of_ne hc] at h
    exact ih h

theorem failsWith_numberFor (kind : Kind) (n : Number) :
    FailsWith FormatError.OfDirective (numberFor kind n) := by
  have hwhole : ∀ x, FailsWith FormatError.OfDirective (wholePart x) := by
    intro x
    rw [wholePart]
    split
    · exact failsWith_ok
    · exact failsWith_error trivial
  unfold numberFor
  split
  · split
    · exact (hwhole _).map
    · exact failsWith_ok
  · exact failsWith_ok

theorem failsWith_layoutNumber (d : Directive) (kind : Kind) (n : Number) :
    FailsWith FormatError.OfDirective (d.layoutNumber kind n) := by
  refine (failsWith_numberFor kind n).bind fun n => ?_
  split
  · exact failsWith_error trivial
  · exact Specifier.failsWith_layoutNumber _ n

theorem failsWith_characterOf (o : Operand) :
    FailsWith MarkupError.OfDirective (characterOf o) := by
  unfold characterOf
  split
  · split
    · exact failsWith_ok
    · exact failsWith_error trivial
  · exact failsWith_ok
  · exact failsWith_error trivial

theorem failsWith_render (d : Directive) (o : Operand) :
    FailsWith MarkupError.OfDirective (d.render o) := by
  have hlayout : ∀ t typeName, FailsWith MarkupError.OfDirective
      (MarkupError.ofFormat (d.textSpecifier.layoutText t typeName)) := fun t typeName =>
    MarkupError.failsWith_ofFormat (Specifier.failsWith_layoutText _ t typeName) fun _ h => h
  unfold render
  split
  · exact o.failsWith_toText.bind fun _ => hlayout _ _
  · split
    · exact o.failsWith_toRepresentation.bind fun _ => hlayout _ _
    · split
      · exact (failsWith_characterOf o).bind fun _ => hlayout _ _
      · split
        · exact MarkupError.failsWith_ofFormat (d.failsWith_layoutNumber _ _) fun _ h => h
        · exact failsWith_error trivial
        · exact failsWith_error trivial

end Directive

/-- Whatever a directive shows of its argument, it is refused for nothing but itself and the
argument. -/
theorem Percent.failsWith_renderDirective (v : Value) (d : Directive) :
    FailsWith MarkupError.OfDirective (renderDirective v d) :=
  d.failsWith_render (Operand.ofValue v)

end EscapeOnce
