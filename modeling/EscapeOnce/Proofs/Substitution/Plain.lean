import EscapeOnce.Proofs.Number.Plain
import EscapeOnce.Proofs.Substitution.Operand

/-!
# Operands under a specifier that asks for nothing

The text of an operand is the safe form of its value (`Operand.toText_ofValue_eq_toSafe`): a safe
text as it is, a number as it stands, and anything else escaped.  A specifier that asks for nothing
leaves that text alone, in a layout of texts and in one of numbers (`Operand.render_plain`), and so
it does not matter to an operand whether it is laid out by such a specifier or not at all.
-/

namespace EscapeOnce

open Entity Outcome

/-- The text of an operand is the safe form of its value. -/
theorem Operand.toText_ofValue_eq_toSafe (v : Value) :
    (ofValue v).toText = v.toSafe.map SafeText.buffer := by
  match hsafe : v.isSafe with
  | true =>
    cases v <;> cases hsafe
    rfl
  | false =>
    have hraw : v.toSafe = v.stringify.map SafeText.escape := by
      cases v <;> first | rfl | cases hsafe
    rw [toText_ofValue hsafe, hraw, map_map]
    rfl

/-- A layout that asks for no more than an alignment leaves a text or its failure alone. -/
theorem Specifier.layout_align (align : Option Align) (h : align ≠ some .afterSign)
    (text : Except MarkupError Text) (typeName : Text) :
    (text >>= fun t => MarkupError.ofFormat (layoutText { plain with align } t typeName)) =
      text := by
  cases text with
  | error e => rfl
  | ok t => exact congrArg MarkupError.ofFormat (layoutText_align align h t typeName)

theorem Operand.render_plain (o : Operand) : o.render none .plain = o.toText := by
  cases o with
  | number n => exact congrArg MarkupError.ofFormat (Specifier.layoutNumber_plain n)
  | trusted buffer => exact Specifier.layout_align none (by decide) (.ok buffer) _
  | quoted v => exact Specifier.layout_align none (by decide) (v.stringify.map escape) _

end EscapeOnce
