import EscapeOnce.Binary64.Decimal
import EscapeOnce.Proofs.Number.Numeral
import Mathlib.Data.Int.Log
import Mathlib.Data.Rat.Floor
import Mathlib.Tactic.Linarith
import Mathlib.Tactic.FieldSimp
import Mathlib.Tactic.Ring

/-!
# Rounding to significant digits

A finite floating-point number is a decimal number (`Binary64.value_toDecimal`), so its digits can
be compared with an exact value.  What it means that a rational number is rounded is said without an
algorithm: the integer next to it, and the even one of two (`IsNearestEven`), on the grid whose
points have a given number of significant digits (`RoundedTo`).

`Decimal.significant` rounds in this sense and finds the decimal exponent of the rounded number,
also where rounding carries into the next power of ten (`Decimal.roundedTo_significant`).

A number that is laid out positionally is rounded a second time, to a number of places that comes
from the exponent of the first rounding.  Both roundings have the same grid unless the first one
carried.  Then the grid of the second is ten times coarser, and the power of ten that was reached is
a point of it to which the number is near enough (`Decimal.atPlaces_eq_significant`).
-/

namespace EscapeOnce

open Numeral

/-! ## The nearest integer -/

/-- The integer is nearest to the number, and even if another one is as near. -/
def IsNearestEven (q : ℚ) (n : ℤ) : Prop := |q - n| ≤ 1 / 2 ∧ (|q - n| = 1 / 2 → Even n)

namespace IsNearestEven

variable {q : ℚ} {n m : ℤ} (h : IsNearestEven q n)
include h

/-- Rounding does not pass an integer. -/
theorem le_of_le (hm : (m : ℚ) ≤ q) : m ≤ n := by
  have hbound := (abs_le.mp h.1).2
  have hlt : ((m - 1 : ℤ) : ℚ) < n := by
    push_cast
    linarith
  have := Int.cast_lt.mp hlt
  omega

theorem le_of_ge (hm : q ≤ m) : n ≤ m := by
  have hbound := (abs_le.mp h.1).1
  have hlt : (n : ℚ) < ((m + 1 : ℤ) : ℚ) := by
    push_cast
    linarith
  have := Int.cast_lt.mp hlt
  omega

/-- An integer that is nearer than half a unit is the nearest one. -/
theorem eq_of_abs_lt (hm : |q - m| < 1 / 2) : n = m := by
  have hdistance : |(n : ℚ) - m| < 1 := by
    have htriangle := abs_sub_le (n : ℚ) q m
    rw [abs_sub_comm (n : ℚ) q] at htriangle
    linarith [h.1]
  have hlt : |n - m| < 1 := by exact_mod_cast hdistance
  have := Int.abs_lt_one_iff.mp hlt
  omega

/-- Only one integer is nearest to a number. -/
theorem unique (hm : IsNearestEven q m) : n = m := by
  rcases lt_or_eq_of_le hm.1 with hlt | heq
  · exact h.eq_of_abs_lt hlt
  · rcases lt_or_eq_of_le h.1 with hlt | heq'
    · exact (hm.eq_of_abs_lt hlt).symm
    · -- two integers that are half a unit away are equal or one apart, and both are even
      obtain ⟨a, rfl⟩ := h.2 heq'
      obtain ⟨b, rfl⟩ := hm.2 heq
      rcases abs_eq_abs.mp (heq'.trans heq.symm) with hsame | hopposite
      · have hcast : ((a + a : ℤ) : ℚ) = (b + b : ℤ) := by linarith
        exact_mod_cast hcast
      · have hdistance : |((a + a : ℤ) : ℚ) - (b + b : ℤ)| ≤ 1 := by
          have htriangle := abs_sub_le ((a + a : ℤ) : ℚ) q (b + b : ℤ)
          rw [abs_sub_comm _ q] at htriangle
          linarith
        have hle : |(a + a) - (b + b)| ≤ 1 := by exact_mod_cast hdistance
        have := abs_le.mp hle
        omega

end IsNearestEven

section

variable (floor : ℤ) {rest : ℚ}

/-- Below the middle, and in the middle if it is even, the integer below is the nearest one. -/
theorem isNearestEven_floor (hpos : 0 ≤ rest) (h : rest < 1 / 2 ∨ rest = 1 / 2 ∧ Even floor) :
    IsNearestEven (floor + rest) floor := by
  have hdistance : |(floor : ℚ) + rest - floor| = rest := by
    rw [add_sub_cancel_left, abs_of_nonneg hpos]
  rw [IsNearestEven, hdistance]
  rcases h with hbelow | ⟨hmiddle, heven⟩
  · exact ⟨hbelow.le, fun hmiddle => absurd hmiddle hbelow.ne⟩
  · exact ⟨hmiddle.le, fun _ => heven⟩

/-- Above the middle, and in the middle if it is even, the integer above is the nearest one. -/
theorem isNearestEven_ceil (hone : rest ≤ 1) (h : 1 / 2 < rest ∨ rest = 1 / 2 ∧ Even (floor + 1)) :
    IsNearestEven (floor + rest) (floor + 1) := by
  have hdistance : |(floor : ℚ) + rest - (floor + 1 : ℤ)| = 1 - rest := by
    push_cast
    rw [abs_of_nonpos (by linarith)]
    ring
  rw [IsNearestEven, hdistance]
  rcases h with habove | ⟨hmiddle, heven⟩
  · refine ⟨by linarith, fun hmiddle => ?_⟩
    linarith
  · exact ⟨by linarith, fun _ => heven⟩

end

/-- The rounded quotient is the integer nearest to the exact one. -/
theorem isNearestEven_roundQuotient (num : Nat) {den : Nat} (hden : 0 < den) :
    IsNearestEven ((num : ℚ) / den) (roundQuotient num den) := by
  have hd : (0 : ℚ) < den := Nat.cast_pos.mpr hden
  have hlt : ((num % den : ℕ) : ℚ) / den < 1 :=
    (div_lt_one hd).mpr (by exact_mod_cast Nat.mod_lt num hden)
  have hpos : (0 : ℚ) ≤ ((num % den : ℕ) : ℚ) / den := by positivity
  have hquotient : (num : ℚ) / den = ((num / den : ℕ) : ℤ) + ((num % den : ℕ) : ℚ) / den := by
    have hsplit : (num : ℚ) = den * (num / den : ℕ) + (num % den : ℕ) := by
      exact_mod_cast (Nat.div_add_mod num den).symm
    rw [Int.cast_natCast]
    field_simp
    linarith
  -- twice the remainder is compared with the divisor, which compares the fraction with a half
  have hbelow : 2 * (num % den) < den ↔ ((num % den : ℕ) : ℚ) / den < 1 / 2 := by
    rw [div_lt_div_iff₀ hd two_pos, one_mul, mul_comm (2 : ℕ)]
    exact_mod_cast Iff.rfl
  have habove : den < 2 * (num % den) ↔ 1 / 2 < ((num % den : ℕ) : ℚ) / den := by
    rw [div_lt_div_iff₀ two_pos hd, one_mul, mul_comm (2 : ℕ)]
    exact_mod_cast Iff.rfl
  rw [hquotient, roundQuotient]
  simp only [hbelow, habove]
  by_cases hless : ((num % den : ℕ) : ℚ) / den < 1 / 2
  · rw [if_pos hless]
    exact isNearestEven_floor _ hpos (Or.inl hless)
  · rw [if_neg hless]
    by_cases hmore : 1 / 2 < ((num % den : ℕ) : ℚ) / den
    · rw [if_pos hmore]
      exact isNearestEven_ceil _ hlt.le (Or.inl hmore)
    · have hmiddle : ((num % den : ℕ) : ℚ) / den = 1 / 2 :=
        le_antisymm (not_lt.mp hmore) (not_lt.mp hless)
      rw [if_neg hmore]
      by_cases hremainder : num / den % 2 = 0
      · have heven : Even (num / den) := Nat.even_iff.mpr hremainder
        rw [if_pos hremainder]
        exact isNearestEven_floor _ hpos (Or.inr ⟨hmiddle, by exact_mod_cast heven⟩)
      · have heven : Even (num / den + 1) := Nat.even_iff.mpr (by omega)
        rw [if_neg hremainder]
        exact isNearestEven_ceil _ hlt.le (Or.inr ⟨hmiddle, by exact_mod_cast heven⟩)

/-! ## Exact values -/

/-- The number that a decimal number is. -/
def Decimal.value (d : Decimal) : ℚ := d.digits * (10 : ℚ) ^ d.exponent

/-- The absolute value of a finite number. -/
def Binary64.magnitude (x : Binary64) : ℚ := x.significand * (2 : ℚ) ^ x.scale

theorem Binary64.value_toDecimal (x : Binary64) : x.toDecimal.value = x.magnitude := by
  rw [toDecimal, magnitude]
  by_cases hscale : 0 ≤ x.scale
  · obtain ⟨k, hk⟩ := Int.eq_ofNat_of_zero_le hscale
    rw [if_pos hscale, Decimal.value, hk, Int.toNat_natCast, Nat.shiftLeft_eq]
    push_cast
    rw [mul_one, zpow_natCast]
  · obtain ⟨k, hk⟩ : ∃ k : ℕ, x.scale = -(k : ℤ) := ⟨(-x.scale).toNat, by omega⟩
    have hpow : (5 : ℚ) ^ k * (10 : ℚ) ^ (-(k : ℤ)) = (2 : ℚ) ^ (-(k : ℤ)) := by
      rw [zpow_neg, zpow_neg, zpow_natCast, zpow_natCast, show (10 : ℚ) = 2 * 5 by norm_num,
        mul_pow]
      field_simp
    rw [if_neg hscale, Decimal.value, hk, neg_neg, Int.toNat_natCast]
    push_cast
    rw [mul_assoc, ← hpow]
    norm_num

/-! ## Significant digits -/

/-- The number rounded to significant digits: the first of its digits stands for multiples of
`10 ^ Int.log 10 q`, and the last one for multiples of the unit to which it is rounded.  Zero, whose
exponent is zero, is rounded to zero. -/
def RoundedTo (count : Nat) (q r : ℚ) : Prop :=
  ∃ n : ℤ, IsNearestEven (q / (10 : ℚ) ^ (Int.log 10 q - count + 1)) n ∧
    r = n * (10 : ℚ) ^ (Int.log 10 q - count + 1)

/-- In the unit of its last digit a number with that many significant digits is between the powers
of ten with as many digits. -/
theorem scaled_bounds {q : ℚ} (hq : 0 < q) {count : Nat} (hcount : 0 < count) :
    (10 : ℚ) ^ (count - 1) ≤ q / (10 : ℚ) ^ (Int.log 10 q - count + 1) ∧
      q / (10 : ℚ) ^ (Int.log 10 q - count + 1) < (10 : ℚ) ^ count := by
  have hunit : (0 : ℚ) < (10 : ℚ) ^ (Int.log 10 q - count + 1) := zpow_pos (by norm_num) _
  have hlow : (10 : ℚ) ^ Int.log 10 q ≤ q := Int.zpow_log_le_self (by decide) hq
  have hhigh : q < (10 : ℚ) ^ (Int.log 10 q + 1) := Int.lt_zpow_succ_log_self (by decide) q
  have hfirst : ((count - 1 : ℕ) : ℤ) + (Int.log 10 q - count + 1) = Int.log 10 q := by omega
  have hlast : (count : ℤ) + (Int.log 10 q - count + 1) = Int.log 10 q + 1 := by omega
  rw [le_div_iff₀ hunit, div_lt_iff₀ hunit, ← zpow_natCast, ← zpow_natCast,
    ← zpow_add₀ (by norm_num), ← zpow_add₀ (by norm_num), hfirst, hlast]
  exact ⟨hlow, hhigh⟩

/-- Rounding keeps a number between these powers of ten, but it may reach the upper one. -/
theorem rounded_bounds {q : ℚ} (hq : 0 < q) {count n : Nat} (hcount : 0 < count)
    (h : IsNearestEven (q / (10 : ℚ) ^ (Int.log 10 q - count + 1)) n) :
    10 ^ (count - 1) ≤ n ∧ n ≤ 10 ^ count := by
  obtain ⟨hlow, hhigh⟩ := scaled_bounds hq hcount
  have hleast := h.le_of_le (m := (10 ^ (count - 1) : ℕ)) (by exact_mod_cast hlow)
  have hmost := h.le_of_ge (m := (10 ^ count : ℕ)) (by exact_mod_cast hhigh.le)
  exact ⟨by exact_mod_cast hleast, by exact_mod_cast hmost⟩

/-- The number that digits with an exponent denote. -/
def Scientific.value (s : Scientific) : ℚ :=
  valueOf s.digits * (10 : ℚ) ^ (s.exponent - s.digits.length + 1)

/-- The text is that many decimal digits, and their exponent is that of the number. -/
structure Scientific.IsSignificant (count : Nat) (s : Scientific) : Prop where
  length : s.digits.length = count
  digits : ∀ c ∈ s.digits, c.isDigit = true
  exponent : Int.log 10 s.value = s.exponent

/-- A number of which the bounds are consecutive powers of ten has the exponent of the lower one. -/
theorem log_eq_of_le_of_lt {q : ℚ} {e : ℤ} (hlow : (10 : ℚ) ^ e ≤ q)
    (hhigh : q < (10 : ℚ) ^ (e + 1)) : Int.log 10 q = e := by
  have hpos : 0 < q := lt_of_lt_of_le (zpow_pos (by norm_num) e) hlow
  have hle : e ≤ Int.log 10 q :=
    (Int.zpow_le_iff_le_log (by decide) hpos).mp (by exact_mod_cast hlow)
  have hlt : Int.log 10 q < e + 1 :=
    (Int.lt_zpow_iff_log_lt (by decide) hpos).mp (by exact_mod_cast hhigh)
  omega

/-- A product with a power of ten lies between powers of ten if its first factor does. -/
theorem log_natCast_mul_zpow {m k : Nat} (hlow : 10 ^ k ≤ m) (hhigh : m < 10 ^ (k + 1)) (e : ℤ) :
    Int.log 10 ((m : ℚ) * (10 : ℚ) ^ e) = k + e := by
  have hpow : (0 : ℚ) < (10 : ℚ) ^ e := zpow_pos (by norm_num) e
  have hlow' : (10 : ℚ) ^ k ≤ m := by exact_mod_cast hlow
  have hhigh' : (m : ℚ) < (10 : ℚ) ^ (k + 1) := by exact_mod_cast hhigh
  refine log_eq_of_le_of_lt ?_ ?_
  · rw [zpow_add₀ (by norm_num), zpow_natCast]
    exact mul_le_mul_of_nonneg_right hlow' hpow.le
  · rw [show (k : ℤ) + e + 1 = (k + 1 : ℕ) + e by push_cast; ring, zpow_add₀ (by norm_num),
      zpow_natCast]
    exact mul_lt_mul_of_pos_right hhigh' hpow

/-- A number between two powers of ten is written with its digits, and their exponent is its own. -/
theorem Scientific.isSignificant_decimal {m count : Nat} (hcount : 0 < count)
    (hlow : 10 ^ (count - 1) ≤ m) (hhigh : m < 10 ^ count) (e : ℤ) :
    Scientific.IsSignificant count ⟨decimal m, e⟩ := by
  obtain ⟨k, rfl⟩ : ∃ k, count = k + 1 := ⟨count - 1, by omega⟩
  have hlength : (decimal m).length = k + 1 := length_decimal_eq hlow hhigh
  refine ⟨hlength, fun c hc => isDigit_of_mem_decimal hc, ?_⟩
  rw [Scientific.value, valueOf_decimal, hlength, log_natCast_mul_zpow hlow hhigh]
  push_cast
  ring

namespace Decimal

variable {d : Decimal} {count : Nat}

/-- A multiplication and a division by natural powers of ten are one by an integral power. -/
theorem mul_pow_div_pow (n : Nat) (e : ℤ) :
    ((n * Nat.pow 10 e.toNat : ℕ) : ℚ) / (Nat.pow 10 (-e).toNat : ℕ) = n * (10 : ℚ) ^ e := by
  rcases Int.le_total 0 e with he | he
  · obtain ⟨k, rfl⟩ := Int.eq_ofNat_of_zero_le he
    have hneg : (-(k : ℤ)).toNat = 0 := by omega
    rw [hneg, Int.toNat_natCast, zpow_natCast]
    push_cast [Nat.pow_eq]
    ring
  · obtain ⟨k, rfl⟩ : ∃ k : ℕ, e = -(k : ℤ) := ⟨(-e).toNat, by omega⟩
    have hneg : (-(k : ℤ)).toNat = 0 := by omega
    rw [hneg, neg_neg, Int.toNat_natCast, zpow_neg, zpow_natCast]
    push_cast [Nat.pow_eq]
    field_simp

/-- A number of places gives the nearest multiple of the unit that is left. -/
theorem isNearestEven_atPlaces (d : Decimal) (places : Nat) :
    IsNearestEven (d.value * (10 : ℚ) ^ places) (d.atPlaces places) := by
  have hunit : 0 < Nat.pow 10 (-(d.exponent + places)).toNat := Nat.pow_pos (by decide)
  have hnearest :=
    isNearestEven_roundQuotient (d.digits * Nat.pow 10 (d.exponent + places).toNat) hunit
  rw [mul_pow_div_pow, zpow_add₀ (by norm_num), zpow_natCast, ← mul_assoc] at hnearest
  exact hnearest

/-- A number that is not zero has the exponent of its first digit. -/
theorem log_value (hd : d.digits ≠ 0) :
    Int.log 10 d.value = d.exponent + (decimal d.digits).length - 1 := by
  have hpos : 0 < (decimal d.digits).length := Nat.length_toDigits_pos
  obtain ⟨k, hk⟩ : ∃ k, (decimal d.digits).length = k + 1 :=
    ⟨_, (Nat.succ_pred_eq_of_pos hpos).symm⟩
  have hlow := pow_length_decimal_le hd
  have hhigh := lt_pow_length_decimal d.digits
  rw [hk] at hlow hhigh ⊢
  rw [value, log_natCast_mul_zpow hlow hhigh]
  push_cast
  ring

/-- All that rounding to significant digits can do: the nearest multiple of the last digit's unit
has as many digits as asked for, or it is the next power of ten. -/
theorem significant_cases (hd : d.digits ≠ 0) (hcount : 0 < count) :
    ∃ n : Nat, IsNearestEven (d.value / (10 : ℚ) ^ (Int.log 10 d.value - count + 1)) n ∧
      ((10 ^ (count - 1) ≤ n ∧ n < 10 ^ count ∧
          d.significant count = ⟨decimal n, Int.log 10 d.value⟩) ∨
        (n = 10 ^ count ∧
          d.significant count = ⟨decimal (10 ^ (count - 1)), Int.log 10 d.value + 1⟩)) := by
  obtain ⟨length, hlength⟩ : ∃ length, (decimal d.digits).length = length := ⟨_, rfl⟩
  have hlog := log_value hd
  rw [hlength] at hlog
  have hup : count - length = ((count : ℤ) - length).toNat := by omega
  have hdown : length - count = (-((count : ℤ) - length)).toNat := by omega
  have hunit : 0 < Nat.pow 10 (length - count) := Nat.pow_pos (by decide)
  have hnearest := isNearestEven_roundQuotient (d.digits * Nat.pow 10 (count - length)) hunit
  have hscaled :
      ((d.digits * Nat.pow 10 (count - length) : ℕ) : ℚ) / (Nat.pow 10 (length - count) : ℕ) =
      d.value / (10 : ℚ) ^ (Int.log 10 d.value - count + 1) := by
    rw [hup, hdown, mul_pow_div_pow, hlog, value, mul_div_assoc, ← zpow_sub₀ (by norm_num)]
    congr 2
    ring
  rw [hscaled] at hnearest
  have hpos : 0 < d.value :=
    mul_pos (by exact_mod_cast Nat.pos_of_ne_zero hd) (zpow_pos (by norm_num) _)
  obtain ⟨n, hn⟩ : ∃ n,
      roundQuotient (d.digits * Nat.pow 10 (count - length)) (Nat.pow 10 (length - count)) = n :=
    ⟨_, rfl⟩
  rw [hn] at hnearest
  obtain ⟨hleast, hmost⟩ := rounded_bounds hpos hcount hnearest
  have hsignificant : d.significant count =
      if n = 10 ^ count then ⟨decimal (10 ^ (count - 1)), Int.log 10 d.value + 1⟩
      else ⟨decimal n, Int.log 10 d.value⟩ := by
    rw [hlog, sub_add_cancel, significant, if_neg hd]
    simp only [hlength, hn]
    rfl
  refine ⟨n, hnearest, ?_⟩
  rcases Nat.lt_or_eq_of_le hmost with hlt | heq
  · exact Or.inl ⟨hleast, hlt, by rw [hsignificant, if_neg hlt.ne]⟩
  · exact Or.inr ⟨heq, by rw [hsignificant, if_pos heq]⟩

/-- The significant digits of a number are those of the rounded number, and their exponent is its
own, also where rounding carries into the next power of ten. -/
theorem roundedTo_significant (d : Decimal) (hcount : 0 < count) :
    (d.significant count).IsSignificant count ∧
      RoundedTo count d.value (d.significant count).value := by
  by_cases hd : d.digits = 0
  · have hzero : d.significant count = ⟨List.replicate count '0', 0⟩ := by
      rw [significant, if_pos hd]
    have hvalue : d.value = 0 := by rw [value, hd, Nat.cast_zero, zero_mul]
    have hrounded : Scientific.value ⟨List.replicate count '0', 0⟩ = 0 := by
      rw [Scientific.value, valueOf_replicate_zero, Nat.cast_zero, zero_mul]
    rw [hzero, hvalue]
    refine ⟨⟨List.length_replicate, fun c hc => ?_, ?_⟩, 0, ?_, ?_⟩
    · rw [(List.mem_replicate.mp hc).2]
      rfl
    · rw [hrounded, Int.log_zero_right]
    · rw [zero_div]
      exact ⟨by norm_num, fun _ => Even.zero⟩
    · rw [hrounded, Int.cast_zero, zero_mul]
  · obtain ⟨n, hnearest, ⟨hlow, hhigh, hs⟩ | ⟨rfl, hs⟩⟩ := significant_cases hd hcount
    · have hsignificant := Scientific.isSignificant_decimal hcount hlow hhigh (Int.log 10 d.value)
      refine ⟨hs ▸ hsignificant, n, hnearest, ?_⟩
      rw [hs, Scientific.value, hsignificant.length, valueOf_decimal]
      rfl
    · -- the carry: one digit fewer of a unit that is ten times larger
      have hlt : 10 ^ (count - 1) < 10 ^ count := Nat.pow_lt_pow_right (by decide) (by omega)
      have hsignificant :=
        Scientific.isSignificant_decimal hcount (Nat.le_refl (10 ^ (count - 1))) hlt
        (Int.log 10 d.value + 1)
      refine ⟨hs ▸ hsignificant, (10 ^ count : ℕ), hnearest, ?_⟩
      rw [hs, Scientific.value, hsignificant.length, valueOf_decimal]
      push_cast
      rw [← zpow_natCast, ← zpow_natCast, ← zpow_add₀ (by norm_num), ← zpow_add₀ (by norm_num)]
      congr 1
      omega

/-- Places and significant digits are two ways to name a unit. -/
theorem mul_pow_places {q : ℚ} {places : Nat} {e : ℤ} (h : (places : ℤ) = count - 1 - e) :
    q * (10 : ℚ) ^ places = q / (10 : ℚ) ^ (e - count + 1) := by
  rw [div_eq_mul_inv, ← zpow_neg, ← zpow_natCast, h]
  congr 2
  ring

/-- If rounding has carried, the power of ten that was reached is also the nearest point of the grid
that is ten times coarser. -/
theorem eq_pow_of_carried {q : ℚ} {n : ℤ} (hcount : 0 < count)
    (hcarried : IsNearestEven q (10 ^ count : ℕ)) (h : IsNearestEven (q / 10) n) :
    n = (10 ^ (count - 1) : ℕ) := by
  have hpower : ((10 ^ count : ℕ) : ℚ) = 10 * (10 ^ (count - 1) : ℕ) := by
    rw [← Nat.sub_add_cancel hcount, Nat.pow_succ]
    push_cast
    ring
  have hbounds := abs_le.mp hcarried.1
  rw [Int.cast_natCast, hpower] at hbounds
  refine h.eq_of_abs_lt ?_
  rw [abs_lt, Int.cast_natCast]
  constructor <;> linarith

/-- A number of places that comes from the exponent of the rounded number gives the digits of the
rounded number once more. -/
theorem atPlaces_eq_significant (d : Decimal) (hcount : 0 < count)
    (hexponent : (d.significant count).exponent < count) :
    d.atPlaces (count - 1 - (d.significant count).exponent).toNat =
      valueOf (d.significant count).digits := by
  obtain ⟨places, hplaces⟩ :
      ∃ places, (count - 1 - (d.significant count).exponent).toNat = places :=
    ⟨_, rfl⟩
  have hcast : (places : ℤ) = count - 1 - (d.significant count).exponent := by omega
  have hagain := d.isNearestEven_atPlaces places
  rw [mul_pow_places hcast] at hagain
  rw [hplaces]
  by_cases hd : d.digits = 0
  · rw [value, hd, Nat.cast_zero, zero_mul, zero_div] at hagain
    have hzero := hagain.eq_of_abs_lt (m := 0) (by norm_num)
    rw [significant, if_pos hd, valueOf_replicate_zero]
    exact_mod_cast hzero
  · obtain ⟨n, hnearest, ⟨hlow, hhigh, hs⟩ | ⟨rfl, hs⟩⟩ := significant_cases hd hcount
    · -- the same grid
      rw [hs] at hagain ⊢
      have hsame := hagain.unique hnearest
      rw [valueOf_decimal]
      exact_mod_cast hsame
    · -- a grid ten times coarser
      have hscale : d.value / (10 : ℚ) ^ (Int.log 10 d.value + 1 - count + 1) =
          d.value / (10 : ℚ) ^ (Int.log 10 d.value - count + 1) / 10 := by
        rw [div_div, ← zpow_add_one₀ (by norm_num)]
        congr 2
        ring
      rw [hs] at hagain ⊢
      rw [hscale] at hagain
      have hsame := eq_pow_of_carried hcount hnearest hagain
      rw [valueOf_decimal]
      exact_mod_cast hsame

end Decimal

end EscapeOnce
