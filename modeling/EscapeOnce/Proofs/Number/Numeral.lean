import EscapeOnce.Numeral
import EscapeOnce.Proofs.Text.Begins
import Mathlib.Algebra.Ring.Nat

/-!
# Numerals are read back

The decimal numeral of a number is a run of digits that denotes the number.  A text in which a
numeral stands before something that is not a digit is therefore read as that number, and what
follows is left.

The numeral of a number other than zero does not begin with a zero.  A reader that takes a leading
zero for something else than a digit can still be given a width.

Conversely a run of digits is the numeral of the number that it denotes (`decimal_valueOf`), unless
it begins with a zero and goes on: such a run is no numeral at all (`decimal_valueOf_zero_cons_ne`).
-/

namespace EscapeOnce.Numeral

open Text

theorem valueOf_decimal (n : Nat) : valueOf (decimal n) = n := Nat.ofDigitChars_ten_toDigits

theorem isDigit_of_mem_decimal {n : Nat} {c : Char} (h : c ∈ decimal n) : c.isDigit = true :=
  Nat.isDigit_of_mem_toDigits (by decide) (Nat.le_refl 10) h

theorem decimal_ne_nil (n : Nat) : decimal n ≠ [] := Nat.toDigits_ne_nil

/-- The numeral of a number that is not zero has no leading zero. -/
theorem head?_decimal_ne {n : Nat} (h : n ≠ 0) : (decimal n).head? ≠ some '0' := by
  induction n using Nat.strongRecOn with
  | ind n ih =>
    by_cases hlt : n < 10
    · intro hhead
      have hdigit : (decimal n).head? = some n.digitChar := by
        rw [decimal, Nat.toDigits_of_lt_base hlt, List.head?_cons]
      rw [hdigit, Option.some.injEq, Nat.digitChar_eq_zero] at hhead
      exact h hhead
    · -- the leading digit is that of the tenth part, which is not zero either
      have hpart : n / 10 ≠ 0 := by omega
      have hleading : (decimal n).head? = (decimal (n / 10)).head? := by
        rw [decimal, Nat.toDigits_of_base_le (by decide) (by omega)]
        rw [List.head?_append]
        exact Option.or_of_isSome (List.isSome_head?.mpr (decimal_ne_nil _))
      rw [hleading]
      exact ih (n / 10) (by omega) hpart

/-- Leading zeros are read without effect. -/
theorem valueOf_zero_cons (digits : Text) : valueOf ('0' :: digits) = valueOf digits := by
  rw [valueOf, Nat.ofDigitChars_cons]
  rfl

theorem valueOf_dropWhile_zero (digits : Text) :
    valueOf (digits.dropWhile (· == '0')) = valueOf digits := by
  induction digits with
  | nil => rfl
  | cons c digits ih =>
    by_cases hc : c = '0'
    · subst hc
      rw [valueOf_zero_cons, ← ih]
      rfl
    · rw [List.dropWhile_cons_of_neg (by simpa using hc)]

/-- Each digit that follows multiplies what is in front of it by ten. -/
theorem valueOf_append (digits more : Text) :
    valueOf (digits ++ more) = valueOf digits * 10 ^ more.length + valueOf more := by
  rw [valueOf, Nat.ofDigitChars_append, Nat.ofDigitChars_eq_ofDigitChars_zero, Nat.mul_comm]
  rfl

/-- A numeral denotes no less when it goes on. -/
theorem valueOf_le_valueOf_append (digits more : Text) :
    valueOf digits ≤ valueOf (digits ++ more) := by
  have hscaled : valueOf digits ≤ valueOf digits * 10 ^ more.length :=
    Nat.le_mul_of_pos_right _ (Nat.pow_pos (by decide))
  rw [valueOf_append]
  omega

theorem valueOf_replicate_zero (k : Nat) : valueOf (List.replicate k '0') = 0 := by
  induction k with
  | zero => rfl
  | succ k ih => rw [List.replicate_succ, valueOf_zero_cons, ih]

/-! ## The number of digits -/

theorem lt_pow_length_decimal (n : Nat) : n < 10 ^ (decimal n).length :=
  (Nat.length_toDigits_le_iff (by decide) Nat.length_toDigits_pos).mp (Nat.le_refl _)

/-- A number that is not zero is at least the power of ten for which its first digit stands. -/
theorem pow_length_decimal_le {n : Nat} (hn : n ≠ 0) : 10 ^ ((decimal n).length - 1) ≤ n := by
  by_cases hone : (decimal n).length = 1
  · rw [hone]
    exact Nat.pos_of_ne_zero hn
  · have hpos : 0 < (decimal n).length := Nat.length_toDigits_pos
    have hshorter : (decimal n).length ≤ (decimal n).length - 1 ↔
        n < 10 ^ ((decimal n).length - 1) :=
      Nat.length_toDigits_le_iff (by decide) (by omega)
    refine Nat.not_lt.mp fun hlt => ?_
    have hle := hshorter.mpr hlt
    omega

/-- The number of digits is read off between which powers of ten a number lies. -/
theorem length_decimal_eq {n k : Nat} (hlow : 10 ^ k ≤ n) (hhigh : n < 10 ^ (k + 1)) :
    (decimal n).length = k + 1 := by
  have hle : (decimal n).length ≤ k + 1 :=
    (Nat.length_toDigits_le_iff (by decide) (by omega)).mpr hhigh
  have hlt : k < (decimal n).length :=
    (Nat.pow_lt_pow_iff_right (by decide)).mp (Nat.lt_of_le_of_lt hlow (lt_pow_length_decimal n))
  omega

/-! ## Runs of digits that are numerals -/

/-- A decimal digit is written for the number that it denotes. -/
theorem digitChar_of_isDigit {c : Char} (h : c.isDigit = true) :
    c.toNat - '0'.toNat < 10 ∧ Nat.digitChar (c.toNat - '0'.toNat) = c := by
  have hcode : 48 ≤ c.toNat ∧ c.toNat ≤ 57 := Char.isDigit_iff_toNat.mp h
  have hlt : c.toNat - 48 < 10 := by omega
  have hchar : (Nat.digitChar (c.toNat - 48)).toNat = c.toNat := by
    rw [Nat.toNat_digitChar_of_lt_ten hlt]
    omega
  exact ⟨hlt, Char.toNat_inj.mp hchar⟩

/-- Digits behind the numeral of a number that is not zero continue it. -/
theorem decimal_append {n : Nat} (hn : 0 < n) {digits : Text} (h : ∀ c ∈ digits, c.isDigit = true) :
    decimal n ++ digits = decimal (Nat.ofDigitChars 10 digits n) := by
  induction digits generalizing n with
  | nil => exact List.append_nil _
  | cons c digits ih =>
    obtain ⟨hc, hdigits⟩ := List.forall_mem_cons.mp h
    obtain ⟨hlt, hchar⟩ := digitChar_of_isDigit hc
    have hstep : decimal n ++ [c] = decimal (10 * n + (c.toNat - '0'.toNat)) := by
      have happend := Nat.toDigits_append_toDigits (by decide) hn hlt
      rwa [Nat.toDigits_of_lt_base hlt, hchar] at happend
    rw [Nat.ofDigitChars_cons, ← ih (by omega) hdigits, ← hstep, List.append_assoc]
    rfl

/-- A run of digits that does not begin with a zero, or is no more than a zero, is the numeral of
what it denotes. -/
theorem decimal_valueOf {digits : Text} (hne : digits ≠ []) (h : ∀ c ∈ digits, c.isDigit = true)
    (hzero : digits.head? = some '0' → digits = ['0']) : decimal (valueOf digits) = digits := by
  cases digits with
  | nil => exact absurd rfl hne
  | cons c digits =>
    by_cases hlead : c = '0'
    · rw [hzero (congrArg some hlead)]
      rfl
    · obtain ⟨hc, hdigits⟩ := List.forall_mem_cons.mp h
      obtain ⟨hlt, hchar⟩ := digitChar_of_isDigit hc
      have hpos : 0 < c.toNat - '0'.toNat := by
        refine Nat.pos_of_ne_zero fun hvalue => hlead ?_
        rw [← hchar, hvalue]
        rfl
      have hfirst : decimal (c.toNat - '0'.toNat) = [c] := by
        rw [decimal, Nat.toDigits_of_lt_base hlt, hchar]
      rw [valueOf, Nat.ofDigitChars_cons, Nat.mul_zero, Nat.zero_add, ← decimal_append hpos hdigits,
        hfirst]
      rfl

/-- A run that begins with a zero and goes on is not the numeral of anything. -/
theorem decimal_valueOf_zero_cons_ne {digits : Text} (hne : digits ≠ []) :
    decimal (valueOf ('0' :: digits)) ≠ '0' :: digits := by
  intro heq
  rw [valueOf_zero_cons] at heq
  by_cases hvalue : valueOf digits = 0
  · rw [hvalue] at heq
    exact hne (List.cons.inj heq).2.symm
  · exact head?_decimal_ne hvalue (by rw [heq]; rfl)

section

variable {digits t : Text} (hdigits : ∀ c ∈ digits, c.isDigit = true)
  (ht : Begins (·.isDigit = false) t)
include hdigits ht

theorem leadingDigits_append : leadingDigits (digits ++ t) = digits :=
  takeWhile_append_of_begins hdigits ht

theorem afterDigits_append : afterDigits (digits ++ t) = t :=
  dropWhile_append_of_begins hdigits ht

end

end EscapeOnce.Numeral
