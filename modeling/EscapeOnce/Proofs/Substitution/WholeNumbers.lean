import EscapeOnce.Percent.Substitution
import EscapeOnce.Proofs.Number.Truncation

/-!
# Floating-point numbers under integer conversions

The decimal conversions take a floating-point number for the integer that is left when its fraction
is cut off, and refuse it if that is no integer of 64 bits (`Percent.renderDirective_float`).  The
range is exact at both ends.  The lower bound is a floating-point number itself and belongs to it;
the upper one rounds up when it is made one, and what it rounds to is refused.  The conversions in
another base refuse every floating-point number.
-/

namespace EscapeOnce

namespace Directive

/-- The conversions that lay out an integer with decimal digits. -/
def decimalConversions : List Char := ['d', 'i', 'u']

/-- The conversions that lay out an integer in another base. -/
def baseConversions : List Char := ['x', 'X', 'o']

theorem render_decimal {d : Directive} (h : d.conversion ∈ decimalConversions) (n : Number) :
    d.render (.number n) = MarkupError.ofFormat (d.layoutNumber .decimal n) := by
  simp only [decimalConversions, List.mem_cons, List.not_mem_nil, or_false] at h
  rw [render]
  rcases h with h | h | h <;> rw [h] <;> rfl

/-- The range test in floating point decides which integer part there is. -/
theorem toOption_wholePart (x : Binary64) : (wholePart x).toOption = x.integerPart? := by
  rw [Binary64.integerPart?_eq_truncate?, wholePart]
  cases x.truncate?.bind int64? <;> rfl

theorem layoutNumber_decimal_float (d : Directive) (x : Binary64) :
    d.layoutNumber .decimal (.float x) =
      wholePart x >>= fun i => d.layoutNumber .decimal (.int i) := by
  rw [layoutNumber, numberFor, if_pos rfl]
  cases wholePart x <;> rfl

section

variable {d : Directive} (hprecision : d.precision = none)
include hprecision

/-- Without a precision every integer has a decimal layout. -/
theorem layoutNumber_decimal_int (i : Int64) : ∃ t, d.layoutNumber .decimal (.int i) = .ok t := by
  have hplain : ∀ s : Specifier, s.kind = some .decimal → s.precision = none →
      s.layoutNumber (.int i) = .ok (s.arrange (Specifier.integerFigure .decimal 10 [] i)) := by
    intro s hkind hnone
    simp [Specifier.layoutNumber, Specifier.layoutFigure, Specifier.figure?, hkind, hnone,
      Kind.isIntegral, Kind.refusesGrouping]
  have hlayout := hplain (d.numberSpecifier .decimal) rfl hprecision
  rw [layoutNumber, hprecision]
  exact ⟨_, hlayout⟩

/-- The conversions in another base refuse a floating-point number. -/
theorem render_base_float (h : d.conversion ∈ baseConversions) (x : Binary64) :
    d.render (.number (.float x)) =
      .error (.format (.typeMismatch d.conversion "float".toList)) := by
  have hrefused : ∀ kind ∈ [Kind.hex, .upperHex, .octal],
      d.layoutNumber kind (.float x) = .error (.typeMismatch kind.letter "float".toList) := by
    intro kind hkind
    have hlayout : ∀ s : Specifier, s.kind = some kind → s.precision = none → s.grouping = false →
        s.layoutNumber (.float x) = .error (.typeMismatch kind.letter "float".toList) := by
      intro s hs hnone hgrouping
      simp only [List.mem_cons, List.not_mem_nil, or_false] at hkind
      rcases hkind with rfl | rfl | rfl <;>
        simp [Specifier.layoutNumber, hs, hnone, hgrouping, Kind.isIntegral, Number.typeName]
    have hself : numberFor kind (.float x) = .ok (.float x) := by
      refine if_neg ?_
      rintro rfl
      simp at hkind
    rw [layoutNumber, hself, hprecision]
    exact hlayout (d.numberSpecifier kind) rfl hprecision rfl
  simp only [baseConversions, List.mem_cons, List.not_mem_nil, or_false] at h
  rw [render]
  rcases h with h | h | h <;> rw [h]
  · exact congrArg MarkupError.ofFormat (hrefused .hex (by simp))
  · exact congrArg MarkupError.ofFormat (hrefused .upperHex (by simp))
  · exact congrArg MarkupError.ofFormat (hrefused .octal (by simp))

end

/-- The integer part is an integer of 64 bits exactly if the value, rounded toward zero, is one. -/
theorem wholePart_of_value? {x : Binary64} {n : ℤ} (hn : x.value?.map towardZero = some n)
    (hlow : -2 ^ 63 ≤ n) (hhigh : n ≤ 2 ^ 63 - 1) : wholePart x = .ok (Int64.ofInt n) := by
  have hrange : Int64.minValue.toInt ≤ n ∧ n ≤ Int64.maxValue.toInt := ⟨hlow, hhigh⟩
  rw [wholePart, Binary64.truncate?_eq_towardZero, hn, Option.bind_some, int64?, if_pos hrange]

theorem wholePart_eq_error {x : Binary64}
    (h : ∀ n, x.value?.map towardZero = some n → n < -2 ^ 63 ∨ 2 ^ 63 - 1 < n) :
    wholePart x = .error (.badSpecifier .notAnInteger) := by
  have hnone : x.truncate?.bind int64? = none := by
    rw [Binary64.truncate?_eq_towardZero, Option.bind_eq_none_iff]
    intro n hn
    have hout := h n hn
    have hrange : ¬ (Int64.minValue.toInt ≤ n ∧ n ≤ Int64.maxValue.toInt) := by
      show ¬ (-2 ^ 63 ≤ n ∧ n ≤ 2 ^ 63 - 1)
      omega
    rw [int64?, if_neg hrange]
  rw [wholePart, hnone]

end Directive

namespace Percent

open Directive

/-- Without a precision, a decimal conversion shows a floating-point number as the integer that is
left when it is rounded toward zero, and refuses it if that is no integer of 64 bits or there is
none.  The comparisons in floating point decide this exactly.  The conversions in another base
refuse every floating-point number. -/
theorem renderDirective_float (x : Binary64) {d : Directive} (hprecision : d.precision = none) :
    (d.conversion ∈ decimalConversions →
      (∀ n : ℤ, x.value?.map towardZero = some n → -2 ^ 63 ≤ n → n ≤ 2 ^ 63 - 1 →
        ∃ t, renderDirective (.int (Int64.ofInt n)) d = .ok t ∧
          renderDirective (.float x) d = .ok t) ∧
      ((∀ n : ℤ, x.value?.map towardZero = some n → n < -2 ^ 63 ∨ 2 ^ 63 - 1 < n) →
        renderDirective (.float x) d = .error (.format (.badSpecifier .notAnInteger)))) ∧
    (wholePart x).toOption = x.integerPart? ∧
    (d.conversion ∈ baseConversions →
      renderDirective (.float x) d =
        .error (.format (.typeMismatch d.conversion "float".toList))) := by
  refine ⟨fun hdecimal => ⟨fun n hn hlow hhigh => ?_, fun hout => ?_⟩, toOption_wholePart x,
    fun hbase => render_base_float hprecision hbase x⟩
  · obtain ⟨t, ht⟩ := layoutNumber_decimal_int hprecision (Int64.ofInt n)
    refine ⟨t, ?_, ?_⟩
    · show d.render (.number (.int _)) = _
      rw [render_decimal hdecimal, ht]
      rfl
    · show d.render (.number (.float x)) = _
      rw [render_decimal hdecimal, layoutNumber_decimal_float, wholePart_of_value? hn hlow hhigh]
      exact congrArg MarkupError.ofFormat ht
  · show d.render (.number (.float x)) = _
    rw [render_decimal hdecimal, layoutNumber_decimal_float, wholePart_eq_error hout]
    rfl

/-- The least integer of 64 bits is in range, its next neighbour below is not, and neither is the
number to which the upper bound rounds. -/
theorem renderDirective_float_bounds :
    let d : Directive := ⟨none, false, some .plus, true, false, 24, none, 'd'⟩
    (∃ t, renderDirective (.int Int64.minValue) d = .ok t ∧
      renderDirective (.float ⟨0xC3E0000000000000⟩) d = .ok t) ∧
    renderDirective (.float ⟨0xC3E0000000000001⟩) d =
      .error (.format (.badSpecifier .notAnInteger)) ∧
    renderDirective (.float ⟨0x43E0000000000000⟩) d =
      .error (.format (.badSpecifier .notAnInteger)) ∧
    renderDirective (.float ⟨0x43E0000000000000⟩) { d with conversion := 'x' } =
      .error (.format (.typeMismatch 'x' "float".toList)) := by
  intro d
  have hvalue : ∀ {x : Binary64} {n : ℤ}, x.truncate? = some n → x.value?.map towardZero = some n :=
    fun h => Binary64.truncate?_eq_towardZero _ ▸ h
  have hleast := hvalue (x := ⟨0xC3E0000000000000⟩) (n := -2 ^ 63) (by decide +kernel)
  have hbelow := hvalue (x := ⟨0xC3E0000000000001⟩) (n := -2 ^ 63 - 2 ^ 11) (by decide +kernel)
  have hbeyond := hvalue (x := ⟨0x43E0000000000000⟩) (n := 2 ^ 63) (by decide +kernel)
  have hmin : Int64.ofInt (-2 ^ 63) = Int64.minValue := by decide
  have hdecimal := fun x => (renderDirective_float x (d := d) rfl).1 (by decide)
  have hbase := fun x => (renderDirective_float x (d := { d with conversion := 'x' }) rfl).2.2
    (by decide)
  refine ⟨hmin ▸ (hdecimal _).1 _ hleast (by decide) (by decide), (hdecimal _).2 fun n hn => ?_,
    (hdecimal _).2 fun n hn => ?_, hbase _⟩
  · obtain rfl := Option.some.inj (hbelow.symm.trans hn)
    exact Or.inl (by decide)
  · obtain rfl := Option.some.inj (hbeyond.symm.trans hn)
    exact Or.inr (by decide)

end Percent

end EscapeOnce
