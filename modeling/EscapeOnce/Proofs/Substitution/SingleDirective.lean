import EscapeOnce.Proofs.Substitution.Fill
import EscapeOnce.Proofs.Template.WrittenDirective

/-!
# One value in one directive

A template of a single directive without a key, on a single value, is the text of that directive on
the value (`Percent.substitute_directiveText`).  The template is the written form of the directive
with its numbers as decimal numerals, so it is read back as the directive
(`Percent.script_directiveText`).
-/

namespace EscapeOnce

open Specifier

namespace Percent

/-- A template of one directive without a key, with a run of flags, a width, a precision and a
conversion. -/
def directiveText (flags : Text) (width : Nat) (precision : Option Nat) (conversion : Char) :
    Text :=
  '%' :: (flags ++ (widthText width ++ (precisionText precision ++ [conversion])))

section

variable {flags : Text} {width : Nat} {precision : Option Nat} {conversion : Char}
  (hflags : ∀ c ∈ flags, Directive.isFlag c = true) (hwidth : width ≤ widthLimit)
  (hprecision : ∀ p ∈ precision, p ≤ widthLimit) (hconversion : conversion ∈ Directive.conversions)

/-- The parts of a directive whose numbers are decimal numerals. -/
def decimalParts : Directive.Parts where
  key := none
  flags := flags
  width := widthDigits width
  point := precision.map fun p => some (Numeral.decimal p)
  modifiers := []
  conversion := conversion
  key_balanced := fun _ h => absurd h (Option.not_mem_none _)
  isFlag_of_mem := hflags
  width_isNumber := isNumber_widthDigits hwidth
  width_head := fun _ => head?_of_mem_widthDigits
  point_isNumber := by
    intro run hrun digits hdigits
    obtain ⟨p, hp, rfl⟩ := Option.map_eq_some_iff.mp hrun
    obtain rfl := Option.some.inj hdigits
    exact isNumber_decimal (hprecision p hp)
  isModifier_of_mem := fun _ h => absurd h List.not_mem_nil
  conversion_mem := hconversion

include hflags hwidth hprecision hconversion

/-- A template of one directive is that directive. -/
theorem script_directiveText :
    Directive.script (directiveText flags width precision conversion) =
      .directive (Directive.ofParts none flags width precision conversion) .done := by
  have hscript := (decimalParts hflags hwidth hprecision hconversion).script_before []
  have htext : '%' :: (decimalParts hflags hwidth hprecision hconversion).before [] =
      directiveText flags width precision conversion := by
    rw [directiveText, ← getD_widthDigits]
    cases precision <;> rfl
  have hvalue : (decimalParts hflags hwidth hprecision hconversion).widthValue = width :=
    valueOf_widthDigits width
  have hprecise : (decimalParts hflags hwidth hprecision hconversion).precisionValue =
      precision := by
    cases precision with
    | none => rfl
    | some p => exact congrArg some (Numeral.valueOf_decimal p)
  rw [htext, hvalue, hprecise, Directive.script] at hscript
  exact hscript

/-- A template of one directive, on one value, is the text of the directive on the value. -/
theorem substitute_directiveText (v : Value) :
    substitute (directiveText flags width precision conversion) (.positional [v]) =
      (Directive.ofParts none flags width precision conversion).render (Operand.ofValue v) := by
  rw [substitute, script_directiveText hflags hwidth hprecision hconversion,
    fill_sole_directive _ rfl, renderDirective]

end

end Percent

end EscapeOnce
