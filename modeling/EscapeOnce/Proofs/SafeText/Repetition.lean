import EscapeOnce.Proofs.Entity.Code
import EscapeOnce.Proofs.Text.Slice
import EscapeOnce.SafeText.Repetition
import Mathlib.Algebra.Ring.Nat

/-!
# When a repetition is checked

Asking first is worth something only if the answer is that of the repetition itself.  Both draw the
line at the largest size of a text, but the check computes with words, and a product of words may be
larger than a word.  If it is, what is left of it in 64 bits may be any number, zero and one among
them; but then the product is also larger than a text can be.  So the check may refuse whatever no
word can hold, and below that a word says exactly what the product is
(`filter_sizeTimes?_eq_none_iff`).

It follows that a checked repetition never stops the program, and that it gives nothing exactly
where an unchecked one would (`checkedRepeat_exact`).
-/

namespace EscapeOnce

/-- A text `n` times over is `n` times as large. -/
theorem Text.utf8Size_flatten_replicate (t : Text) (n : Nat) :
    utf8Size (List.replicate n t).flatten = t.utf8Size * n := by
  induction n with
  | zero => rfl
  | succ n ih =>
    rw [List.replicate_succ, List.flatten_cons, utf8Size_append, ih, Nat.mul_succ, Nat.add_comm]

namespace SafeText

theorem buffer_times (s : SafeText) (n : Nat) :
    (s.times n).buffer = (List.replicate n s.buffer).flatten := by
  rw [times]
  by_cases hempty : s.buffer.isEmpty = true
  · rw [if_pos hempty, List.isEmpty_iff.mp hempty, List.flatten_replicate_nil]
    rfl
  · rw [if_neg hempty]

/-! ## Without a check -/

/-- An unchecked repetition stops the program exactly if it is larger than a text can be. -/
theorem repeated_eq_error_iff {s : SafeText} {n : UInt64} :
    s.repeated n = .error .capacity ↔ sizeLimit < s.utf8Size * n.toNat := by
  rw [repeated, repeat?]
  by_cases hfits : s.utf8Size * n.toNat ≤ sizeLimit
  · rw [if_pos hfits]
    exact iff_of_false nofun (Nat.not_lt.mpr hfits)
  · rw [if_neg hfits]
    exact iff_of_true rfl (Nat.lt_of_not_le hfits)

theorem repeated_eq_ok {s : SafeText} {n : UInt64} (hfits : s.utf8Size * n.toNat ≤ sizeLimit) :
    s.repeated n = .ok (s.times n.toNat) := by
  rw [repeated, repeat?, if_pos hfits]

/-! ## With a check -/

/-- The check on words refuses a product exactly if it is larger than a text can be. -/
theorem filter_sizeTimes?_eq_none_iff {size : Nat} {n : UInt64} :
    (sizeTimes? size n).filter (· ≤ UInt64.ofNat sizeLimit) = none ↔
      sizeLimit < size * n.toNat := by
  have hlimit : (UInt64.ofNat sizeLimit).toNat = sizeLimit := by decide
  rw [sizeTimes?, Option.filter_eq_none_iff]
  by_cases hword : size * n.toNat < UInt64.size
  · rw [if_pos hword]
    have hproduct := UInt64.toNat_ofNat_of_lt' hword
    constructor
    · intro hrefused
      have hnot := hrefused _ rfl
      rw [decide_eq_true_eq, UInt64.le_iff_toNat_le, hproduct, hlimit] at hnot
      exact Nat.lt_of_not_le hnot
    · rintro hlarge _ ⟨⟩
      rw [decide_eq_true_eq, UInt64.le_iff_toNat_le, hproduct, hlimit]
      exact Nat.not_le.mpr hlarge
  · rw [if_neg hword]
    -- no word holds the product, and every text is smaller than that
    have hroom : sizeLimit < UInt64.size := by decide
    exact iff_of_true nofun (hroom.trans_le (Nat.le_of_not_lt hword))

theorem checkedRepeat_eq_none {s : SafeText} {n : UInt64}
    (hlarge : sizeLimit < s.utf8Size * n.toNat) : s.checkedRepeat n = .ok none := by
  rw [checkedRepeat, filter_sizeTimes?_eq_none_iff.mpr hlarge]

theorem checkedRepeat_eq_some {s : SafeText} {n : UInt64}
    (hfits : s.utf8Size * n.toNat ≤ sizeLimit) :
    s.checkedRepeat n = .ok (some (s.times n.toNat)) := by
  rw [checkedRepeat]
  cases hsize : (sizeTimes? s.utf8Size n).filter (· ≤ UInt64.ofNat sizeLimit) with
  | some size =>
    rw [repeated_eq_ok hfits]
    rfl
  | none => exact absurd (filter_sizeTimes?_eq_none_iff.mp hsize) (Nat.not_lt.mpr hfits)

/-- A checked repetition gives nothing exactly if the size times the count is above `2 ^ 63 - 1`,
and that is exactly when an unchecked one stops the program.  Otherwise both give the same text, the
buffer as many times over as the count says; it is as large as the product says, and for the escaped
form of a raw text it is the escaped form of that text as many times over. -/
theorem checkedRepeat_exact (s : SafeText) (n : UInt64) :
    (s.checkedRepeat n = .ok none ↔ 2 ^ 63 - 1 < s.utf8Size * n.toNat) ∧
    (s.repeated n = .error .capacity ↔ 2 ^ 63 - 1 < s.utf8Size * n.toNat) ∧
    (s * n = .error .capacity ↔ 2 ^ 63 - 1 < s.utf8Size * n.toNat) ∧
    (s.utf8Size * n.toNat ≤ 2 ^ 63 - 1 →
      ∃ r, s.checkedRepeat n = .ok (some r) ∧ s.repeated n = .ok r ∧ s * n = .ok r ∧
        r.buffer = (List.replicate n.toNat s.buffer).flatten ∧
        r.utf8Size = s.utf8Size * n.toNat ∧
        ∀ t, s = escape t → r = escape (List.replicate n.toNat t).flatten) := by
  have hlimit : sizeLimit = 2 ^ 63 - 1 := by decide
  rw [← hlimit]
  refine ⟨⟨fun hnone => ?_, checkedRepeat_eq_none⟩, repeated_eq_error_iff, repeated_eq_error_iff,
    fun hfits => ⟨s.times n.toNat, checkedRepeat_eq_some hfits, repeated_eq_ok hfits,
      repeated_eq_ok hfits, buffer_times s _, ?_, ?_⟩⟩
  · refine Nat.lt_of_not_le fun hfits => ?_
    rw [checkedRepeat_eq_some hfits] at hnone
    cases hnone
  · rw [utf8Size, buffer_times, Text.utf8Size_flatten_replicate, ← utf8Size]
  · rintro t rfl
    refine congrArg trusted (?_ : (times (escape t) n.toNat).buffer = _)
    rw [buffer_times, Entity.escape_flatten, List.map_replicate]
    rfl

/-- Two characters `2 ^ 63` times over are a product of which 64 bits hold only zeros, and `2 ^ 62`
times over they are too large by one.  There is room for one time less, and an empty text fits any
number of times. -/
theorem checkedRepeat_exact_limits :
    let s := trusted "ab".toList
    s.checkedRepeat 9223372036854775808 = .ok none ∧
    s.checkedRepeat 4611686018427387904 = .ok none ∧
    (∃ r, s.checkedRepeat 4611686018427387903 = .ok (some r) ∧ r.utf8Size = 9223372036854775806) ∧
    empty.utf8Size * UInt64.toNat 18446744073709551615 ≤ 2 ^ 63 - 1 ∧
    ∃ r, empty * (18446744073709551615 : UInt64) = .ok r ∧ r.utf8Size = 0 := by
  intro s
  have hroom : s.utf8Size * UInt64.toNat 4611686018427387903 ≤ 2 ^ 63 - 1 := by decide
  have hempty : empty.utf8Size * UInt64.toNat 18446744073709551615 ≤ 2 ^ 63 - 1 := by decide
  obtain ⟨r, hr, -, -, -, hsize, -⟩ := (checkedRepeat_exact s 4611686018427387903).2.2.2 hroom
  obtain ⟨e, -, -, he, -, hnothing, -⟩ :=
    (checkedRepeat_exact empty 18446744073709551615).2.2.2 hempty
  exact ⟨(checkedRepeat_exact s _).1.mpr (by decide), (checkedRepeat_exact s _).1.mpr (by decide),
    ⟨r, hr, hsize.trans (by decide)⟩, hempty, e, he, hnothing.trans (by decide)⟩

end SafeText

end EscapeOnce
