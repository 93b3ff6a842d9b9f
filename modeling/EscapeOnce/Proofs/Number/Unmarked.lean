import EscapeOnce.Number
import EscapeOnce.Proofs.Entity.Code

/-!
# Texts of numbers hold no markup

A number is substituted without being escaped, so its text must not need it.  Every text of a number
is put together from digits, points, signs, exponent letters and the words for infinity and the
undefined number, and none of these is a markup character.  The lemmas follow the way in which the
texts are made: numerals first, then the decimal digits of a floating-point number, then their
layout.
-/

namespace EscapeOnce

open Entity

/-! ## Numerals -/

namespace Numeral

theorem unmarked_digitChar (n : Nat) : Unmarked [n.digitChar] := by
  intro c hc
  rw [List.mem_singleton.mp hc]
  exact ⟨Nat.digitChar_ne _ (by decide), Nat.digitChar_ne _ (by decide),
    Nat.digitChar_ne _ (by decide), Nat.digitChar_ne _ (by decide)⟩

theorem unmarked_toDigitsCore (base fuel n : Nat) {t : Text} (h : Unmarked t) :
    Unmarked (Nat.toDigitsCore base fuel n t) := by
  induction fuel generalizing n t with
  | zero => exact h
  | succ fuel ih =>
    have hcons : Unmarked ((n % base).digitChar :: t) :=
      unmarked_cons.mpr ⟨unmarked_digitChar _, h⟩
    rw [Nat.toDigitsCore]
    split
    · exact hcons
    · exact ih _ hcons

theorem unmarked_toDigits (base n : Nat) : Unmarked (Nat.toDigits base n) :=
  unmarked_toDigitsCore _ _ _ unmarked_nil

theorem unmarked_decimal (n : Nat) : Unmarked (decimal n) := unmarked_toDigits 10 n

theorem unmarked_signedDecimal (i : Int) : Unmarked (signedDecimal i) := by
  rw [signedDecimal]
  split
  · exact unmarked_cons.mpr ⟨by decide, unmarked_decimal _⟩
  · exact unmarked_decimal _

theorem unmarked_toUpper {c : Char} (h : Unmarked [c]) : Unmarked [c.toUpper] := by
  unfold Char.toUpper
  split
  case isTrue hlower =>
    obtain ⟨h₁, h₂⟩ := hlower
    have hlow : 97 ≤ c.val.toNat := UInt32.le_iff_toNat_le.mp h₁
    have hhigh : c.val.toNat ≤ 122 := UInt32.le_iff_toNat_le.mp h₂
    -- a capital letter, and so none of the four
    have hne : ∀ d : Char, d.val.toNat < 65 → ∀ h,
        (⟨c.val + ('A'.val - 'a'.val), h⟩ : Char) ≠ d := by
      rintro d hd h rfl
      rw [UInt32.toNat_add] at hd
      have hshift : ('A'.val - 'a'.val).toNat = 4294967264 := rfl
      omega
    intro d hd
    rw [List.mem_singleton.mp hd]
    exact ⟨hne _ (by decide) _, hne _ (by decide) _, hne _ (by decide) _, hne _ (by decide) _⟩
  case isFalse => exact h

theorem unmarked_cased (upper : Bool) {t : Text} (h : Unmarked t) : Unmarked (cased upper t) := by
  cases upper with
  | false => exact h
  | true =>
    intro c hc
    obtain ⟨d, hd, rfl⟩ := List.mem_map.mp hc
    exact unmarked_toUpper (h.of_mem hd) _ (List.mem_singleton_self _)

theorem unmarked_groupDigits {t : Text} (h : Unmarked t) : Unmarked (groupDigits t) := by
  induction t with
  | nil => exact unmarked_nil
  | cons d ds ih =>
    obtain ⟨hd, hds⟩ := unmarked_cons.mp h
    have hcomma : Unmarked [','] := by decide
    rw [groupDigits]
    split
    · exact unmarked_cons.mpr ⟨hd, unmarked_cons.mpr ⟨hcomma, ih hds⟩⟩
    · exact unmarked_cons.mpr ⟨hd, ih hds⟩

theorem unmarked_grouped {t : Text} (h : Unmarked t) : Unmarked (grouped t) :=
  unmarked_append.mpr
    ⟨unmarked_groupDigits (h.subset (List.takeWhile_prefix _).subset),
      h.subset (List.dropWhile_suffix _).subset⟩

end Numeral

open Numeral

/-! ## Digits of a floating-point number -/

theorem Decimal.unmarked_digits_significant (d : Decimal) (count : Nat) :
    Unmarked (d.significant count).digits := by
  simp only [Decimal.significant]
  split
  · exact unmarked_replicate _ (by decide)
  · split
    · exact unmarked_decimal _
    · exact unmarked_decimal _

theorem Decimal.unmarked_digits_stripped (d : Decimal) : Unmarked d.stripped.digits := by
  refine (unmarked_decimal d.digits).subset fun c hc => ?_
  exact List.mem_reverse.mp ((List.dropWhile_suffix _).subset (List.mem_reverse.mp hc))

theorem Binary64.unmarked_digits_shortest (x : Binary64) : Unmarked x.shortest.digits := by
  rw [Binary64.shortest]
  split
  · decide
  · exact Decimal.unmarked_digits_stripped _

/-! ## Layout of the digits -/

theorem Scientific.unmarked_positional {s : Scientific} (h : Unmarked s.digits) :
    Unmarked s.positional := by
  have hzero : Unmarked ['0'] := by decide
  simp only [Scientific.positional]
  split
  · exact unmarked_append.mpr
      ⟨unmarked_append.mpr ⟨by decide, unmarked_replicate _ hzero⟩, h⟩
  · split
    · exact unmarked_append.mpr ⟨h, unmarked_replicate _ hzero⟩
    · exact unmarked_append.mpr ⟨h.subset (List.take_subset _ _),
        unmarked_cons.mpr ⟨by decide, h.subset (List.drop_subset _ _)⟩⟩

theorem Scientific.unmarked_mantissa {s : Scientific} (h : Unmarked s.digits) :
    Unmarked s.mantissa := by
  rw [Scientific.mantissa]
  match hdigits : s.digits with
  | [] => exact unmarked_nil
  | [digit] =>
    rw [hdigits] at h
    exact h
  | first :: next :: rest =>
    rw [hdigits] at h
    obtain ⟨hfirst, hrest⟩ := unmarked_cons.mp h
    exact unmarked_cons.mpr ⟨hfirst, unmarked_cons.mpr ⟨by decide, hrest⟩⟩

theorem FloatStyle.unmarked_exponent (style : FloatStyle) (e : Int) :
    Unmarked (style.exponent e) := by
  have hsign : Unmarked (if e < 0 then ['-'] else if style.signedExponent then ['+'] else []) := by
    split
    · decide
    · split <;> decide
  exact unmarked_append.mpr ⟨unmarked_append.mpr
    ⟨unmarked_cons.mpr ⟨by decide, hsign⟩, unmarked_replicate _ (by decide)⟩, unmarked_decimal _⟩

theorem unmarked_withPoint {t : Text} (h : Unmarked t) : Unmarked (withPoint t) := by
  rw [withPoint]
  split
  · exact h
  · exact unmarked_append.mpr ⟨h, by decide⟩

theorem unmarked_withoutTrailingZeros {t : Text} (h : Unmarked t) :
    Unmarked (withoutTrailingZeros t) := by
  rw [withoutTrailingZeros]
  split
  · refine h.subset fun c hc => ?_
    exact List.mem_reverse.mp ((List.dropWhile_suffix _).subset
      ((List.dropWhile_suffix _).subset (List.mem_reverse.mp hc)))
  · exact h

namespace Binary64

theorem unmarked_nonFinite (x : Binary64) : Unmarked x.nonFinite := by
  rw [nonFinite]
  split <;> decide

theorem unmarked_toText (x : Binary64) : Unmarked x.toText := by
  have hsign : Unmarked (if x.isNegative then ['-'] else []) := by split <;> decide
  have hdigits := unmarked_digits_shortest x
  simp only [toText, written]
  split
  · decide
  · split
    · exact unmarked_append.mpr ⟨hsign, by decide⟩
    · split
      · exact unmarked_append.mpr
          ⟨hsign, unmarked_withPoint (Scientific.unmarked_positional hdigits)⟩
      · exact unmarked_append.mpr
          ⟨unmarked_append.mpr ⟨hsign, Scientific.unmarked_mantissa hdigits⟩,
            FloatStyle.unmarked_exponent _ _⟩

theorem unmarked_fixedDigits (x : Binary64) (places : Nat) : Unmarked (x.fixedDigits places) := by
  have hpadded : ∀ n m, Unmarked (List.replicate n '0' ++ decimal m) := fun n m =>
    unmarked_append.mpr ⟨unmarked_replicate _ (by decide), unmarked_decimal _⟩
  simp only [fixedDigits]
  split
  · split
    · exact hpadded _ _
    · exact unmarked_append.mpr ⟨(hpadded _ _).subset (List.take_subset _ _),
        unmarked_cons.mpr ⟨by decide, (hpadded _ _).subset (List.drop_subset _ _)⟩⟩
  · exact unmarked_nonFinite x

section

variable {x : Binary64} {t : Text}

theorem unmarked_of_fixed? {places : Nat} (h : x.fixed? places = some t) : Unmarked t := by
  rw [fixed?, Option.ite_none_right_eq_some] at h
  exact Option.some.inj h.2 ▸ x.unmarked_fixedDigits places

theorem unmarked_of_exponential? {places : Nat} (h : x.exponential? places = some t) :
    Unmarked t := by
  rw [exponential?, Option.ite_none_right_eq_some] at h
  exact Option.some.inj h.2 ▸ unmarked_append.mpr
    ⟨Scientific.unmarked_mantissa (Decimal.unmarked_digits_significant _ _),
      FloatStyle.unmarked_exponent _ _⟩

theorem unmarked_of_general? {precision : Nat} {alternate keepPoint : Bool}
    (h : x.general? precision alternate keepPoint = some t) : Unmarked t := by
  have hdigits := Decimal.unmarked_digits_significant x.toDecimal (max precision 1)
  have hkept : ∀ {t : Text}, Unmarked t →
      Unmarked (if alternate then t else withoutTrailingZeros t) := by
    intro t ht
    split
    · exact ht
    · exact unmarked_withoutTrailingZeros ht
  simp only [general?] at h
  split at h
  · split at h
    · split at h
      · exact Option.some.inj h ▸ unmarked_append.mpr
          ⟨hkept (Scientific.unmarked_mantissa hdigits), FloatStyle.unmarked_exponent _ _⟩
      · obtain ⟨fixed, hfixed, rfl⟩ := Option.map_eq_some_iff.mp h
        have hnumeral := hkept (unmarked_of_fixed? hfixed)
        split
        · exact unmarked_withPoint hnumeral
        · exact hnumeral
    · cases h
  · exact Option.some.inj h ▸ unmarked_nonFinite x

theorem unmarked_of_generalText? {precision : Nat} {upper alternate keepPoint : Bool}
    (h : x.generalText? precision upper alternate keepPoint = some t) : Unmarked t := by
  obtain ⟨numeral, hnumeral, rfl⟩ := Option.map_eq_some_iff.mp h
  exact unmarked_cased upper (unmarked_of_general? hnumeral)

end

end Binary64

/-- The plain text of a number needs no escaping. -/
theorem Number.unmarked_toText (n : Number) : Unmarked n.toText := by
  cases n with
  | int i => exact unmarked_signedDecimal _
  | float x => exact Binary64.unmarked_toText x

end EscapeOnce
