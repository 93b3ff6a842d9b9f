import EscapeOnce.Binary64.Truncation
import EscapeOnce.Proofs.Number.Rounding

/-!
# The integer part of a floating-point number

Every floating-point number but an undefined one is a number of units (`Binary64.units`), and its
integer part is the number of ones in them (`Binary64.whole`).  Cutting the fraction off, which is
done on the bits, leaves the greatest multiple of one (`Binary64.units_trunc`): the bits that are
cleared are those of the remainder.  So a comparison of what is left with a bound is a comparison of
the integer part, and the two bounds are known.  The least integer of 64 bits is a floating-point
number, and the greatest rounds to the one behind it (`Binary64.ofInt_maxValue`).  It follows that
the test in floating point is exact (`Binary64.integerPart?_eq_truncate?`).

What the integer part should be is said of the number as a rational: rounded toward zero, it is the
integer that has been calculated (`Binary64.truncate?_eq_towardZero`).
-/

namespace EscapeOnce

namespace Binary64

/-! ## Numbers made of their fields -/

section

variable {negative : Bool} {m : Nat} (hm : m < signBit)
include hm

theorem toNat_bits_ofMagnitude :
    (ofMagnitude negative m).bits.toNat = if negative then signBit + m else m := by
  have hlt : (if negative then signBit + m else m) < UInt64.size := by
    rw [signBit] at hm ⊢
    show _ < 0x10000000000000000
    split <;> omega
  exact UInt64.toNat_ofNat_of_lt' hlt

theorem isNegative_ofMagnitude : (ofMagnitude negative m).isNegative = negative := by
  rw [isNegative, toNat_bits_ofMagnitude hm]
  cases negative <;> simp [hm]

theorem exponentField_ofMagnitude : (ofMagnitude negative m).exponentField = m / exponentUnit := by
  have hmod : (if negative then signBit + m else m) % signBit = m := by
    split
    · rw [Nat.add_mod_left, Nat.mod_eq_of_lt hm]
    · exact Nat.mod_eq_of_lt hm
  rw [exponentField, toNat_bits_ofMagnitude hm, hmod]

theorem fractionField_ofMagnitude : (ofMagnitude negative m).fractionField = m % exponentUnit := by
  rw [fractionField, toNat_bits_ofMagnitude hm]
  split
  · rw [Nat.add_mod, show signBit % exponentUnit = 0 from rfl, Nat.zero_add, Nat.mod_mod]
  · rfl

end

/-- The bits behind the sign are the exponent and the fraction. -/
theorem toNat_bits_mod_signBit (x : Binary64) :
    x.bits.toNat % signBit = x.exponentField * exponentUnit + x.fractionField := by
  have hfraction : x.fractionField = x.bits.toNat % signBit % exponentUnit :=
    (Nat.mod_mod_of_dvd _ (by decide)).symm
  rw [hfraction, exponentField, Nat.mul_comm, Nat.div_add_mod]

theorem fractionField_lt (x : Binary64) : x.fractionField < exponentUnit := Nat.mod_lt _ (by decide)

theorem exponentField_le (x : Binary64) : x.exponentField ≤ exponentLimit := by
  have hlt : x.bits.toNat % signBit < signBit := Nat.mod_lt _ (by decide)
  rw [exponentField, exponentLimit]
  rw [signBit] at hlt ⊢
  rw [exponentUnit]
  omega

/-! ## The fraction is cut off -/

/-- Clearing low bits that a multiple of their weight does not have leaves the multiple. -/
theorem add_shiftRight_shiftLeft {n k : Nat} (hn : 2 ^ k ∣ n) (m : Nat) :
    (n + m) >>> k <<< k = n + m / 2 ^ k * 2 ^ k := by
  obtain ⟨a, rfl⟩ := hn
  rw [Nat.shiftRight_eq_div_pow, Nat.shiftLeft_eq, Nat.mul_add_div (Nat.two_pow_pos k), Nat.add_mul,
    Nat.mul_comm a]

theorem cleared_lt (x : Binary64) (k : Nat) : x.fractionField / 2 ^ k * 2 ^ k < exponentUnit :=
  Nat.lt_of_le_of_lt (Nat.div_mul_le_self _ _) x.fractionField_lt

section

variable {x : Binary64} (hx : 1023 ≤ x.exponentField)
include hx

/-- The places of the fraction of a number are among those of its fraction field. -/
theorem pow_places_dvd : 2 ^ (1075 - x.exponentField) ∣ exponentUnit := by
  show 2 ^ (1075 - x.exponentField) ∣ 2 ^ 52
  exact Nat.pow_dvd_pow 2 (by omega)

theorem trunc_eq :
    x.trunc = ofMagnitude x.isNegative (x.exponentField * exponentUnit +
      x.fractionField / 2 ^ (1075 - x.exponentField) * 2 ^ (1075 - x.exponentField)) := by
  have hcleared := add_shiftRight_shiftLeft
    (Nat.dvd_mul_left_of_dvd (pow_places_dvd hx) x.exponentField) x.fractionField
  rw [trunc, if_neg (Nat.not_lt.mpr hx), toNat_bits_mod_signBit]
  exact congrArg (ofMagnitude x.isNegative) hcleared

theorem magnitude_trunc_lt :
    x.exponentField * exponentUnit +
      x.fractionField / 2 ^ (1075 - x.exponentField) * 2 ^ (1075 - x.exponentField) < signBit := by
  have hcleared := cleared_lt x (1075 - x.exponentField)
  have hexponent := x.exponentField_le
  simp only [exponentLimit, exponentUnit, signBit] at hcleared hexponent ⊢
  omega

theorem exponentField_trunc : x.trunc.exponentField = x.exponentField := by
  rw [trunc_eq hx, exponentField_ofMagnitude (magnitude_trunc_lt hx), Nat.mul_comm,
    Nat.mul_add_div (by decide), Nat.div_eq_of_lt (cleared_lt x _), Nat.add_zero]

theorem fractionField_trunc : x.trunc.fractionField =
    x.fractionField / 2 ^ (1075 - x.exponentField) * 2 ^ (1075 - x.exponentField) := by
  rw [trunc_eq hx, fractionField_ofMagnitude (magnitude_trunc_lt hx), Nat.mul_comm,
    Nat.mul_add_mod, Nat.mod_eq_of_lt (cleared_lt x _)]

theorem significand_trunc : x.trunc.significand =
    x.significand / 2 ^ (1075 - x.exponentField) * 2 ^ (1075 - x.exponentField) := by
  obtain ⟨a, ha⟩ := pow_places_dvd hx
  have hne : x.exponentField ≠ 0 := by omega
  rw [significand, exponentField_trunc hx, fractionField_trunc hx, if_neg hne, significand,
    if_neg hne, ha, Nat.mul_add_div (Nat.two_pow_pos _), Nat.add_mul, Nat.mul_comm a]

end

theorem isNegative_trunc (x : Binary64) : x.trunc.isNegative = x.isNegative := by
  by_cases hx : 1023 ≤ x.exponentField
  · rw [trunc_eq hx, isNegative_ofMagnitude (magnitude_trunc_lt hx)]
  · rw [trunc, if_pos (Nat.lt_of_not_le hx), isNegative_ofMagnitude (by decide)]

theorem isNaN_trunc (x : Binary64) : x.trunc.isNaN = x.isNaN := by
  by_cases hlimit : x.exponentField = exponentLimit
  · have hx : 1023 ≤ x.exponentField := by
      rw [hlimit]
      decide
    have hplaces : 1075 - x.exponentField = 0 := by
      rw [hlimit]
      rfl
    rw [isNaN, exponentField_trunc hx, fractionField_trunc hx, hplaces, isNaN]
    simp
  · have hother : x.trunc.exponentField ≠ exponentLimit := by
      by_cases hx : 1023 ≤ x.exponentField
      · rwa [exponentField_trunc hx]
      · rw [trunc, if_pos (Nat.lt_of_not_le hx), exponentField_ofMagnitude (by decide)]
        decide
    simp [isNaN, hlimit, hother]

/-! ## Units -/

/-- A power of two and its places make up one. -/
theorem unitsOfOne_eq {e : Nat} (hpos : 1 ≤ e) (he : e ≤ 1075) :
    unitsOfOne = 2 ^ (1075 - e) * 2 ^ (e - 1) := by
  have hsum : 1075 - e + (e - 1) = leastPlaces := by
    rw [leastPlaces]
    omega
  rw [unitsOfOne, Nat.one_shiftLeft, ← Nat.pow_add, hsum]

theorem unitsOfOne_dvd {e : Nat} (he : 1075 ≤ e) : unitsOfOne ∣ 2 ^ (e - 1) := by
  have hle : leastPlaces ≤ e - 1 := by
    rw [leastPlaces]
    omega
  rw [unitsOfOne, Nat.one_shiftLeft]
  exact Nat.pow_dvd_pow 2 hle

theorem significand_lt (x : Binary64) : x.significand < 2 ^ 53 := by
  have hfraction := x.fractionField_lt
  show x.significand < 0x20000000000000
  rw [exponentUnit] at hfraction
  rw [significand, exponentUnit]
  split <;> omega

/-- Cutting the fraction off leaves the greatest multiple of one that is in the number. -/
theorem units_trunc (x : Binary64) : x.trunc.units = x.units / unitsOfOne * unitsOfOne := by
  by_cases hx : 1023 ≤ x.exponentField
  · have hmax : max x.exponentField 1 = x.exponentField := by omega
    rw [units, units, exponentField_trunc hx, significand_trunc hx, hmax, Nat.shiftLeft_eq,
      Nat.shiftLeft_eq]
    rcases Nat.le_total x.exponentField 1075 with hle | hge
    · rw [unitsOfOne_eq (by omega) hle, Nat.mul_div_mul_right _ _ (Nat.two_pow_pos _),
        Nat.mul_assoc]
    · have hplaces : 1075 - x.exponentField = 0 := by omega
      rw [hplaces, Nat.pow_zero, Nat.div_one, Nat.mul_one,
        Nat.div_mul_cancel (Nat.dvd_mul_left_of_dvd (unitsOfOne_dvd hge) _)]
  · -- The number is below one: 53 bits, shifted by less than what is missing to one.
    have hsmall : x.units < unitsOfOne := by
      have hpow : 2 ^ 53 * 2 ^ (max x.exponentField 1 - 1) ≤ 2 ^ leastPlaces := by
        have hle : 53 + (max x.exponentField 1 - 1) ≤ leastPlaces := by
          rw [leastPlaces]
          omega
        rw [← Nat.pow_add]
        exact Nat.pow_le_pow_right (by decide) hle
      rw [units, Nat.shiftLeft_eq, unitsOfOne, Nat.one_shiftLeft]
      exact Nat.lt_of_lt_of_le
        (Nat.mul_lt_mul_of_pos_right x.significand_lt (Nat.two_pow_pos _)) hpow
    have hzero : x.trunc.significand = 0 := by
      rw [significand, trunc, if_pos (Nat.lt_of_not_le hx), exponentField_ofMagnitude (by decide),
        fractionField_ofMagnitude (by decide)]
      rfl
    rw [Nat.div_eq_of_lt hsmall, Nat.zero_mul, units, hzero, Nat.zero_shiftLeft]

/-! ## The range test -/

theorem unitsOfOne_pos : 0 < unitsOfOne := by
  rw [unitsOfOne, Nat.one_shiftLeft]
  exact Nat.two_pow_pos _

theorem whole_trunc (x : Binary64) : x.trunc.whole = x.whole := by
  rw [whole, isNegative_trunc, units_trunc, Nat.mul_div_cancel _ unitsOfOne_pos, whole]

/-- Without its fraction a number is as many times one as its integer part says. -/
theorem signedUnits_trunc (x : Binary64) : x.trunc.signedUnits = x.whole * unitsOfOne := by
  rw [signedUnits, isNegative_trunc, units_trunc, whole]
  split
  · rw [Int.natCast_mul, Int.neg_mul]
  · rw [Int.natCast_mul]

/-- The least integer of 64 bits is a floating-point number. -/
theorem ofInt_minValue : (ofInt Int64.minValue.toInt).isNaN = false ∧
    (ofInt Int64.minValue.toInt).signedUnits = Int64.minValue.toInt * unitsOfOne := by
  decide +kernel

/-- The greatest integer of 64 bits rounds up to the next one. -/
theorem ofInt_maxValue : (ofInt Int64.maxValue.toInt).isNaN = false ∧
    (ofInt Int64.maxValue.toInt).signedUnits = (Int64.maxValue.toInt + 1) * unitsOfOne := by
  decide +kernel

/-- The comparisons in floating point ask whether the integer part is an integer of 64 bits,
exactly. -/
theorem integerPart?_eq (x : Binary64) :
    x.integerPart? = if x.isNaN then none else int64? x.whole := by
  have hunit : (0 : ℤ) < unitsOfOne := Int.natCast_pos.mpr unitsOfOne_pos
  by_cases hnan : x.isNaN
  · rw [integerPart?, atMost, isNaN_trunc, hnan]
    simp
  · have hnan' : x.trunc.isNaN = false := by rw [isNaN_trunc, Bool.eq_false_iff.mpr hnan]
    have hleast : (ofInt Int64.minValue.toInt).atMost x.trunc = true ↔
        Int64.minValue.toInt ≤ x.whole := by
      rw [atMost, ofInt_minValue.1, hnan', ofInt_minValue.2, signedUnits_trunc]
      simp only [Bool.not_false, Bool.true_and, decide_eq_true_eq]
      exact mul_le_mul_iff_of_pos_right hunit
    have hbeyond : x.trunc.lessThan (ofInt Int64.maxValue.toInt) = true ↔
        x.whole ≤ Int64.maxValue.toInt := by
      rw [lessThan, ofInt_maxValue.1, hnan', ofInt_maxValue.2, signedUnits_trunc,
        ← Int.lt_add_one_iff]
      simp only [Bool.not_false, Bool.true_and, decide_eq_true_eq]
      exact mul_lt_mul_iff_of_pos_right hunit
    rw [integerPart?, if_neg hnan, int64?]
    simp only [Bool.and_eq_true, hleast, hbeyond]
    by_cases hbounds : Int64.minValue.toInt ≤ x.whole ∧ x.whole ≤ Int64.maxValue.toInt
    · rw [if_pos hbounds, if_pos hbounds, toInt64, hnan', whole_trunc,
        Int.min_eq_left hbounds.2, Int.max_eq_right hbounds.1]
      rfl
    · rw [if_neg hbounds, if_neg hbounds]

/-- The significand, shifted by the scale, is the number of ones in the units. -/
theorem shifted_significand (x : Binary64) :
    (x.significand <<< x.scale.toNat) >>> (-x.scale).toNat = x.units / unitsOfOne := by
  obtain ⟨e, he⟩ : ∃ e, max x.exponentField 1 = e := ⟨_, rfl⟩
  have hpos : 1 ≤ e := by omega
  rw [scale, units, he, Nat.shiftLeft_eq, Nat.shiftRight_eq_div_pow, Nat.shiftLeft_eq]
  rcases Nat.le_total e 1075 with hle | hge
  · have hup : ((e : Int) - 1075).toNat = 0 := by omega
    have hdown : (-((e : Int) - 1075)).toNat = 1075 - e := by omega
    rw [hup, hdown, unitsOfOne_eq hpos hle, Nat.mul_div_mul_right _ _ (Nat.two_pow_pos _),
      Nat.pow_zero, Nat.mul_one]
  · have hup : ((e : Int) - 1075).toNat = e - 1075 := by omega
    have hdown : (-((e : Int) - 1075)).toNat = 0 := by omega
    have hsum : e - 1 = e - 1075 + leastPlaces := by
      rw [leastPlaces]
      omega
    rw [hup, hdown, hsum, Nat.pow_add, unitsOfOne, Nat.one_shiftLeft, ← Nat.mul_assoc,
      Nat.mul_div_cancel _ (Nat.two_pow_pos _), Nat.pow_zero, Nat.div_one]

/-- The exact integer part of a finite number. -/
theorem truncate?_eq (x : Binary64) : x.truncate? = if x.isFinite then some x.whole else none := by
  rw [truncate?, shifted_significand, whole]

theorem pow_le_mul_pow_div {s a b c k : Nat} (hs : 2 ^ a ≤ s) (hle : b + c ≤ a + k) :
    2 ^ b ≤ s * 2 ^ k / 2 ^ c := by
  rw [Nat.le_div_iff_mul_le (Nat.two_pow_pos c), ← Nat.pow_add]
  calc 2 ^ (b + c)
      ≤ 2 ^ (a + k) := Nat.pow_le_pow_right Nat.two_pos hle
    _ = 2 ^ a * 2 ^ k := Nat.pow_add ..
    _ ≤ s * 2 ^ k := Nat.mul_le_mul_right _ hs

/-- An infinite number is beyond the integers of 64 bits. -/
theorem int64?_whole_of_infinite {x : Binary64} (hx : x.isFinite = false) :
    int64? x.whole = none := by
  have hexponent : x.exponentField = exponentLimit := by
    have hle := x.exponentField_le
    rw [isFinite, decide_eq_false_iff_not] at hx
    omega
  have hlarge : 2 ^ 64 ≤ x.units / unitsOfOne := by
    have hsignificand : 2 ^ 52 ≤ x.significand := by
      rw [significand, hexponent]
      exact Nat.le_add_right _ _
    obtain ⟨k, hk⟩ : ∃ k, max x.exponentField 1 - 1 = k := ⟨_, rfl⟩
    have hle : 64 + leastPlaces ≤ 52 + k := by
      rw [← hk, hexponent]
      decide
    rw [units, hk, Nat.shiftLeft_eq, unitsOfOne, Nat.one_shiftLeft]
    exact pow_le_mul_pow_div hsignificand hle
  rw [int64?, if_neg]
  have hmin : Int64.minValue.toInt = -2 ^ 63 := rfl
  have hmax : Int64.maxValue.toInt = 2 ^ 63 - 1 := rfl
  rw [hmin, hmax, whole]
  split <;> omega

/-- The test in floating point gives the exact integer part if that is an integer of 64 bits. -/
theorem integerPart?_eq_truncate? (x : Binary64) : x.integerPart? = x.truncate?.bind int64? := by
  rw [integerPart?_eq, truncate?_eq]
  by_cases hx : x.isFinite = true
  · have hnan : x.isNaN = false := by
      have hlt := of_decide_eq_true hx
      simp [isNaN, hlt.ne]
    rw [hnan, if_pos hx]
    rfl
  · rw [if_neg hx, int64?_whole_of_infinite (Bool.eq_false_iff.mpr hx)]
    split <;> rfl

end Binary64

/-! ## The exact value -/

/-- Rounding toward zero. -/
def towardZero (q : ℚ) : ℤ := if 0 ≤ q then ⌊q⌋ else ⌈q⌉

theorem towardZero_neg (q : ℚ) : towardZero (-q) = -towardZero q := by
  rcases lt_trichotomy q 0 with hneg | rfl | hpos
  · rw [towardZero, towardZero, if_pos (by linarith), if_neg (by linarith), Int.floor_neg]
  · simp [towardZero]
  · rw [towardZero, towardZero, if_neg (by linarith), if_pos hpos.le, Int.ceil_neg]

theorem towardZero_natCast_div (n d : Nat) : towardZero ((n : ℚ) / d) = (n / d : Nat) := by
  rw [towardZero, if_pos (by positivity), Rat.floor_natCast_div_natCast, Int.natCast_div]

namespace Binary64

/-- The number that a finite floating-point number is; the others are none. -/
def value? (x : Binary64) : Option ℚ :=
  if x.isFinite then some (if x.isNegative then -x.magnitude else x.magnitude) else none

theorem magnitude_eq_units (x : Binary64) : x.magnitude = (x.units : ℚ) / unitsOfOne := by
  obtain ⟨e, he⟩ : ∃ e, max x.exponentField 1 = e := ⟨_, rfl⟩
  have hscale : ((e : Int) - 1075) = ((e - 1 : Nat) : Int) - leastPlaces := by
    rw [leastPlaces]
    omega
  rw [magnitude, scale, units, he, hscale, zpow_sub₀ two_ne_zero, zpow_natCast, zpow_natCast,
    Nat.shiftLeft_eq, unitsOfOne, Nat.one_shiftLeft]
  push_cast
  rw [mul_div_assoc]

/-- The integer part is the value rounded toward zero. -/
theorem truncate?_eq_towardZero (x : Binary64) : x.truncate? = x.value?.map towardZero := by
  rw [truncate?_eq, value?, whole, magnitude_eq_units]
  split
  · split
    · rw [Option.map_some, towardZero_neg, towardZero_natCast_div]
    · rw [Option.map_some, towardZero_natCast_div]
  · rfl

end Binary64

end EscapeOnce
