import EscapeOnce.Proofs.Entity.Tokens
import EscapeOnce.Specifier.Layout

/-!
# Layouts that change nothing

A number is laid out by its absolute value, with the sign put in front afterwards, while its text
writes the number as a whole.  The two come to the same: digits depend on the exponent and the
fraction of a number only, which its absolute value has too, and the sign stands in front in either
case (`Binary64.toText_eq_sign_append`).  An undefined number has no sign in its text, even where
its sign bit is set, and none in its layout.

So the plain specifier lays out a number as its text (`layoutNumber_plain`), and a text under a
specifier that asks for nothing is left alone (`layoutText_align`).
-/

namespace EscapeOnce

/-! ## The absolute value -/

namespace Binary64

theorem toNat_bits_abs (x : Binary64) : x.abs.bits.toNat = x.bits.toNat % signBit := by
  have hlt : x.bits.toNat % signBit < 2 ^ 64 :=
    Nat.lt_trans (Nat.mod_lt _ (by decide)) (by decide)
  exact UInt64.toNat_ofNat_of_lt' hlt

theorem isNegative_abs (x : Binary64) : x.abs.isNegative = false := by
  have hlt : x.bits.toNat % signBit < signBit := Nat.mod_lt _ (by decide)
  rw [isNegative, toNat_bits_abs]
  exact decide_eq_false (Nat.not_le_of_gt hlt)

theorem exponentField_abs (x : Binary64) : x.abs.exponentField = x.exponentField := by
  rw [exponentField, toNat_bits_abs, Nat.mod_mod, exponentField]

theorem fractionField_abs (x : Binary64) : x.abs.fractionField = x.fractionField := by
  rw [fractionField, toNat_bits_abs, Nat.mod_mod_of_dvd _ (by decide), fractionField]

theorem isNaN_abs (x : Binary64) : x.abs.isNaN = x.isNaN := by
  rw [isNaN, exponentField_abs, fractionField_abs, isNaN]

theorem isFinite_abs (x : Binary64) : x.abs.isFinite = x.isFinite := by
  rw [isFinite, exponentField_abs, isFinite]

theorem significand_abs (x : Binary64) : x.abs.significand = x.significand := by
  rw [significand, exponentField_abs, fractionField_abs, significand]

theorem scale_abs (x : Binary64) : x.abs.scale = x.scale := by
  rw [scale, exponentField_abs, scale]

theorem roundingInterval_abs (x : Binary64) : x.abs.roundingInterval = x.roundingInterval := by
  rw [roundingInterval, significand_abs, scale_abs, exponentField_abs, fractionField_abs]
  rfl

/-- The digits of a number are those of its absolute value. -/
theorem shortest_abs (x : Binary64) : x.abs.shortest = x.shortest := by
  rw [shortest, isZero, exponentField_abs, fractionField_abs, roundingInterval_abs]
  rfl

/-- The text of a number is its sign and the text of its absolute value. -/
theorem toText_eq_sign_append (x : Binary64) :
    x.toText = (if x.isNegative && !x.isNaN then ['-'] else []) ++ x.abs.toText := by
  simp only [toText, written, isNaN_abs, isNegative_abs, isFinite_abs, shortest_abs]
  by_cases hnan : x.isNaN = true
  · rw [if_pos hnan, if_pos hnan, hnan, Bool.not_true, Bool.and_false]
    rfl
  · rw [if_neg hnan, if_neg hnan, Bool.eq_false_iff.mpr hnan, Bool.not_false, Bool.and_true]
    simp only [Bool.false_eq_true, if_false, List.nil_append]
    split
    · rfl
    · split
      · rfl
      · rw [List.append_assoc]

end Binary64

/-! ## Numbers -/

theorem padded_zero (visible : Nat) (fill : Char) (align : Align) (body : Text) :
    padded 0 visible fill align body = body := by
  cases align <;> simp [padded, Align.shares]

namespace Specifier

theorem layoutNumber_plain (n : Number) : plain.layoutNumber n = .ok n.toText := by
  have hfigure : ∀ f : Figure,
      plain.arrange f = (if f.negative then ['-'] else []) ++ f.body := by
    rintro ⟨_ | _, marker, body⟩
    · exact padded_zero _ ' ' .right body
    · exact padded_zero _ ' ' .right ('-' :: body)
  cases n with
  | float x =>
    refine congrArg Except.ok ((hfigure (floatFigure x x.abs.toText)).trans ?_)
    exact x.toText_eq_sign_append.symm
  | int i =>
    refine congrArg Except.ok ((hfigure (integerFigure .decimal 10 [] i)).trans ?_)
    show (if decide (i.toInt < 0) = true then ['-'] else []) ++ Numeral.decimal i.toInt.natAbs =
      Numeral.signedDecimal i.toInt
    rw [Numeral.signedDecimal]
    by_cases hneg : i.toInt < 0
    · rw [if_pos hneg, if_pos (decide_eq_true hneg)]
      rfl
    · rw [if_neg hneg, if_neg (by simpa using hneg)]
      rfl

/-! ## Texts -/

/-- A specifier that asks for no more than an alignment leaves a text alone. -/
theorem layoutText_align (align : Option Align) (h : align ≠ some .afterSign) (t typeName : Text) :
    layoutText { plain with align } t typeName = .ok t := by
  have hlayout : layoutText { plain with align } t typeName =
      .ok (padded 0 (Visible.tokens t).length ' ' (align.getD .left)
        (Visible.tokens t).flatten) := by
    rw [layoutText, layoutPieces]
    match align, h with
    | none, _ => rfl
    | some .left, _ => rfl
    | some .right, _ => rfl
    | some .center, _ => rfl
    | some .afterSign, h => exact absurd rfl h
  rw [hlayout, padded_zero, Visible.flatten_tokens]

end Specifier

end EscapeOnce
