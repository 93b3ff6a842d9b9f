import EscapeOnce.Proofs.Specifier.Grammar
import EscapeOnce.Proofs.Substitution.SingleDirective
import EscapeOnce.Proofs.Substitution.SingleField

/-!
# The two placeholder styles agree

A percent directive and a replacement field say the same thing in two notations.  Each has a reader
of its own, and the two differ in three ways: a directive aligns a text to the right where a field
aligns it to the left; its left flag takes back its zero flag, where a field keeps both; and it
refuses the precision of a whole number itself, with a message of its own.

None of these can be seen in the result.  The alignment of a text can be written out in the field.
A zero flag has no effect where there is an alignment (`Specifier.layoutNumber_zero`).  And the
layout of a field refuses the precision of a whole number as well, if in other words.  So a
directive and the field that corresponds to it show the same text or fail, texts even with the same
error (`styles_agree`).
-/

namespace EscapeOnce

open Outcome Specifier

/-! ## Texts -/

theorem Form.letter_mem_conversions (form : Form) : form.letter ∈ Directive.conversions := by
  cases form <;> decide

/-- A directive for a form of a value lays it out as a field with that conversion does. -/
theorem Directive.render_of_conversion_eq_letter {d : Directive} {form : Form}
    (h : d.conversion = form.letter) (o : Operand) :
    d.render o = o.render (some form) d.textSpecifier := by
  rw [render, h]
  cases form <;> rfl

/-! ## Numbers -/

/-- The kinds other than the decimal one that both styles have. -/
def Kind.shared : List Kind :=
  [hex, upperHex, octal, fixed, upperFixed, exponential, upperExponential, general, upperGeneral]

theorem Kind.letter_mem_conversions :
    ∀ kind ∈ decimal :: shared, kind.letter ∈ Directive.conversions := by decide

namespace Specifier

/-- The specifier that asks for what the flags of a directive ask for, each on its own. -/
def ofFlags (flags : Text) (width : Nat) (precision : Option Nat) (kind : Kind) : Specifier :=
  { plain with
    align := if flags.contains '-' then some .left else none
    sign := Directive.signOf flags
    alternate := flags.contains '#'
    zero := flags.contains '0'
    width := width
    precision := precision
    kind := some kind }

section

variable {s : Specifier} (h : s.align.isSome = true) (zero : Bool)
include h

theorem arrange_zero (f : Figure) :
    ({ s with zero := zero } : Specifier).arrange f = s.arrange f := by
  obtain ⟨align, halign⟩ := Option.isSome_iff_exists.mp h
  have hpads : ({ s with zero := zero } : Specifier).padsZeros = s.padsZeros := by
    simp only [padsZeros, halign, Option.isNone_some, Bool.and_false]
  have hnumberAlign : ({ s with zero := zero } : Specifier).numberAlign = s.numberAlign := by
    rw [numberAlign, hpads, numberAlign]
  have hnumberFill : ({ s with zero := zero } : Specifier).numberFill = s.numberFill := by
    rw [numberFill, hpads, numberFill]
  rw [arrange, hnumberAlign, hnumberFill]
  rfl

/-- A zero flag has no effect beside an alignment. -/
theorem layoutNumber_zero (n : Number) :
    ({ s with zero := zero } : Specifier).layoutNumber n = s.layoutNumber n := by
  have hfigure : ({ s with zero := zero } : Specifier).figure? n = s.figure? n := rfl
  have hcharacter : ∀ code, ({ s with zero := zero } : Specifier).layoutCharacter code =
      s.layoutCharacter code := fun _ => rfl
  simp only [layoutNumber, layoutFigure, hfigure, hcharacter, arrange_zero h]

end

end Specifier

namespace Directive

/-- The left flag of a directive takes back its zero flag, which would have no effect. -/
theorem layoutNumber_numberSpecifier (d : Directive) (kind : Kind) (n : Number) :
    (d.numberSpecifier kind).layoutNumber n =
      ({ d.numberSpecifier kind with zero := d.zero } : Specifier).layoutNumber n := by
  cases hleft : d.left with
  | true =>
    have halign : (d.numberSpecifier kind).align.isSome = true := by
      rw [numberSpecifier, hleft]
      rfl
    exact (layoutNumber_zero halign d.zero n).symm
  | false =>
    have hzero : (d.numberSpecifier kind).zero = d.zero := by
      rw [numberSpecifier, hleft]
      exact Bool.and_true d.zero
    rw [← hzero]

/-- A directive lays out a number that it takes as it is as its specifier does, or refuses it where
that does. -/
theorem toOption_layoutNumber {d : Directive} {kind : Kind} {n : Number}
    (hn : numberFor kind n = .ok n) :
    (d.layoutNumber kind n).toOption =
      (({ d.numberSpecifier kind with zero := d.zero } : Specifier).layoutNumber n).toOption := by
  rw [← layoutNumber_numberSpecifier, layoutNumber, hn]
  show (if (d.precision.isSome && kind.isIntegral) = true then _ else _ : Except _ _).toOption = _
  by_cases hrefused : (d.precision.isSome && kind.isIntegral) = true
  · have hlayout : (d.numberSpecifier kind).layoutNumber n =
        .error (.badSpecifier .precisionOnInteger) := by
      rw [Bool.and_comm] at hrefused
      exact if_pos hrefused
    rw [if_pos hrefused, hlayout]
    rfl
  · rw [if_neg hrefused]

theorem render_number {d : Directive} {kind : Kind} (hconversion : d.conversion = kind.letter)
    (hkind : kind ∈ Kind.decimal :: Kind.shared) (n : Number) :
    d.render (.number n) = MarkupError.ofFormat (d.layoutNumber kind n) := by
  rw [render, hconversion]
  simp only [Kind.shared, List.mem_cons, List.not_mem_nil, or_false] at hkind
  rcases hkind with rfl | rfl | rfl | rfl | rfl | rfl | rfl | rfl | rfl | rfl <;> rfl

end Directive

/-! ## Corresponding templates -/

/-- A template of one field with a printed specifier lays out its value by that specifier. -/
theorem Brace.substitute_print {s : Specifier} (conversion : Option Form) (hfill : s.fill = none)
    (hwidth : s.width ≤ widthLimit) (hprecision : ∀ p ∈ s.precision, p ≤ widthLimit) {v : Value}
    {named : Dict Value} :
    substitute (fieldText conversion s.print) [v] named =
      (Operand.ofValue v).render conversion s := by
  have hprintable : s.Printable := ⟨fun h => absurd h (by rw [hfill]; decide), hwidth, hprecision⟩
  have hnone : ∀ c, s.fill ≠ some c := fun c h => absurd (hfill.symm.trans h) (by simp)
  have hopen : '{' ∉ s.print :=
    not_mem_print hprintable (hnone _) rfl fun kind => by cases kind <;> decide
  have hclose : '}' ∉ s.print :=
    not_mem_print hprintable (hnone _) rfl fun kind => by cases kind <;> decide
  rw [substitute_fieldText conversion hopen hclose, parse_print hprintable]
  rfl

/-- A directive and the field that corresponds to it agree on a value, for every width and precision
that a specifier can have.  A directive for the text or the diagnostic form of a value is the field
with that conversion whose alignment is to the left if the directive has the left flag, and to the
right otherwise; the two even fail with the same error.  A numeric directive on a number is the
field with the options that its flags ask for, where the decimal one is meant for integers alone. -/
theorem styles_agree (v : Value) (width : Nat) (precision : Option Nat) (named : Dict Value)
    (hwidth : width ≤ widthLimit) (hprecision : ∀ p ∈ precision, p ≤ widthLimit) :
    (∀ (left : Bool) (form : Form),
      Percent.substitute
          (Percent.directiveText (if left then ['-'] else []) width precision form.letter)
          (.positional [v]) =
        Brace.substitute
          (Brace.fieldText (some form)
            (print { plain with align := some (if left then .left else .right), width, precision }))
          [v] named) ∧
    (∀ (flags : Text) (kind : Kind), (∀ c ∈ flags, Directive.isFlag c = true) →
      ((∃ i, v = .int i) ∨ ∃ x, v = .float x) →
      (kind ∈ Kind.shared ∨ kind = .decimal ∧ ∃ i, v = .int i) →
      (Percent.substitute (Percent.directiveText flags width precision kind.letter)
          (.positional [v])).toOption =
        (Brace.substitute (Brace.fieldText none (ofFlags flags width precision kind).print)
          [v] named).toOption) := by
  constructor
  · intro left form
    have hflags : ∀ c ∈ (if left then ['-'] else []), Directive.isFlag c = true := by
      intro c hc
      cases left with
      | true =>
        rw [List.mem_singleton.mp hc]
        rfl
      | false => cases hc
    rw [Percent.substitute_directiveText hflags hwidth hprecision form.letter_mem_conversions,
      Brace.substitute_print (some form) rfl hwidth hprecision,
      Directive.render_of_conversion_eq_letter rfl]
    cases left <;> rfl
  · intro flags kind hflags hv hkind
    have hmem : kind ∈ Kind.decimal :: Kind.shared := by
      rcases hkind with h | ⟨rfl, -⟩
      · exact List.mem_cons_of_mem _ h
      · exact List.mem_cons_self
    obtain ⟨n, hoperand, hn⟩ : ∃ n, Operand.ofValue v = .number n ∧
        Directive.numberFor kind n = .ok n := by
      rcases hv with ⟨i, rfl⟩ | ⟨x, rfl⟩
      · exact ⟨.int i, rfl, rfl⟩
      · have hdecimal : kind ≠ .decimal := by
          rcases hkind with h | ⟨-, i, hi⟩
          · rintro rfl
            exact absurd h (by decide)
          · cases hi
        exact ⟨.float x, rfl, if_neg hdecimal⟩
    rw [Percent.substitute_directiveText hflags hwidth hprecision
        (Kind.letter_mem_conversions kind hmem),
      Brace.substitute_print none rfl hwidth hprecision, hoperand, Directive.render_number rfl hmem,
      MarkupError.toOption_ofFormat, Directive.toOption_layoutNumber hn]
    exact (MarkupError.toOption_ofFormat _).symm

/-- A text that is cut and aligned to the left, and a signed number whose zero flag has no
effect. -/
theorem styles_agree_left_flag :
    Percent.substitute "%-5.2s".toList (.positional [.str "<b>".toList]) =
      Brace.substitute "{!s:<5.2}".toList [.str "<b>".toList] [] ∧
    (Percent.substitute "%-+08d".toList (.positional [.int 42])).toOption =
      (Brace.substitute "{:<+08d}".toList [.int 42] []).toOption ∧
    Percent.substitute "%-+08d".toList (.positional [.int 42]) = .ok "+42     ".toList := by
  have hflags : ∀ c ∈ ['-', '+', '0'], Directive.isFlag c = true := List.all_eq_true.mp rfl
  have hwidth : 8 ≤ widthLimit := by decide
  have hcut : ∀ p ∈ some 2, p ≤ widthLimit := by simp [widthLimit]
  have hnone : ∀ p ∈ (none : Option Nat), p ≤ widthLimit := by simp
  have hdecimal : 'd' ∈ Directive.conversions := by decide
  exact ⟨(styles_agree (.str "<b>".toList) 5 (some 2) [] (by decide) hcut).1 true .text,
    (styles_agree (.int 42) 8 none [] hwidth hnone).2 _ .decimal hflags (Or.inl ⟨42, rfl⟩)
      (Or.inr ⟨rfl, 42, rfl⟩),
    Percent.substitute_directiveText hflags hwidth hnone hdecimal (.int 42)⟩

end EscapeOnce
