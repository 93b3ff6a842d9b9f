import EscapeOnce.Numeral
import Mathlib.Data.List.Basic

/-!
# Numerals in a base up to sixteen

A numeral is read from the left, digit by digit, and letters count as digits in either case.  The
digits that `Nat.toDigits` writes are read back as the number, whether or not its letters are put in
upper case (`read?_map_toDigits`), and none of them is a leading zero (`head?_toDigits`).  Together
this is `IsNumeral`.

Leading zeros are read without effect, and commas are none of the digits.  Grouping sets commas and
does nothing else (`filter_grouped`).
-/

namespace EscapeOnce.Numeral

/-! ## Reading -/

/-- The number that a digit denotes; letters stand for ten to fifteen. -/
def digitValue? (c : Char) : Option Nat :=
  if c.isDigit then some (c.toNat - '0'.toNat)
  else if 'a' ≤ c ∧ c ≤ 'f' then some (c.toNat - 'a'.toNat + 10)
  else if 'A' ≤ c ∧ c ≤ 'F' then some (c.toNat - 'A'.toNat + 10)
  else none

/-- Reads digits of a base behind those that have been read as `n`. -/
def readFrom? (base n : Nat) : Text → Option Nat
  | [] => some n
  | c :: t => do
    let d ← digitValue? c
    if d < base then readFrom? base (base * n + d) t else none

/-- The number that a run of digits of a base denotes; there has to be a digit. -/
def read? (base : Nat) (t : Text) : Option Nat := if t.isEmpty then none else readFrom? base 0 t

/-- The text is the numeral of a number in a base: it denotes the number, has no leading zero, and
its letters are in one case. -/
structure IsNumeral (base : Nat) (upper : Bool) (n : Nat) (t : Text) : Prop where
  denotes : read? base t = some n
  leading : t.head? = some '0' → t = ['0']
  cased : ∀ c ∈ t, c = if upper then c.toUpper else c.toLower

theorem readFrom?_append (base n : Nat) (s t : Text) :
    readFrom? base n (s ++ t) = (readFrom? base n s).bind (readFrom? base · t) := by
  induction s generalizing n with
  | nil => rfl
  | cons c s ih =>
    cases hd : digitValue? c with
    | none => simp [readFrom?, hd]
    | some d =>
      by_cases hlt : d < base
      · simpa [readFrom?, hd, hlt] using ih _
      · simp [readFrom?, hd, hlt]

/-- Leading zeros are read without effect. -/
theorem read?_replicate_zero_append {base n : Nat} (hbase : 0 < base) {t : Text}
    (h : read? base t = some n) (k : Nat) : read? base (List.replicate k '0' ++ t) = some n := by
  have hne : t ≠ [] := by
    rintro rfl
    cases h
  have hzeros : readFrom? base 0 (List.replicate k '0') = some 0 := by
    have hzero : digitValue? '0' = some 0 := rfl
    induction k with
    | zero => rfl
    | succ k ih => simpa [List.replicate_succ, readFrom?, hzero, hbase] using ih
  rw [read?, if_neg (by simpa using hne)] at h
  rw [read?, if_neg (by simp [hne]), readFrom?_append, hzeros, Option.bind_some, h]

/-! ## Writing -/

theorem digitValue?_digitChar : ∀ d < 16, digitValue? (Nat.digitChar d) = some d := by decide

theorem digitValue?_toUpper_digitChar :
    ∀ d < 16, digitValue? (Nat.digitChar d).toUpper = some d := by
  decide

theorem toLower_digitChar : ∀ d < 16, (Nat.digitChar d).toLower = Nat.digitChar d := by decide

theorem toUpper_toUpper_digitChar :
    ∀ d < 16, (Nat.digitChar d).toUpper.toUpper = (Nat.digitChar d).toUpper := by
  decide

theorem toUpper_digitChar_ne_zero : ∀ d < 16, 0 < d → (Nat.digitChar d).toUpper ≠ '0' := by decide

section

variable {base : Nat} (hbase : 1 < base)
include hbase

/-- The digits of a number are digits of the base. -/
theorem exists_digit_of_mem_toDigits {n : Nat} {c : Char} (h : c ∈ Nat.toDigits base n) :
    ∃ d < base, c = Nat.digitChar d := by
  induction n using Nat.strongRecOn with
  | ind n ih =>
    by_cases hlt : n < base
    · rw [Nat.toDigits_of_lt_base hlt, List.mem_singleton] at h
      exact ⟨n, hlt, h⟩
    · rw [Nat.toDigits_of_base_le hbase (Nat.not_lt.mp hlt), List.mem_append,
        List.mem_singleton] at h
      rcases h with h | h
      · exact ih (n / base) (Nat.div_lt_self (by omega) hbase) h
      · exact ⟨n % base, Nat.mod_lt n (by omega), h⟩

/-- The numeral of a number that is not zero begins with a digit that is not zero. -/
theorem head?_toDigits {n : Nat} (hn : n ≠ 0) :
    ∃ d, 0 < d ∧ d < base ∧ (Nat.toDigits base n).head? = some (Nat.digitChar d) := by
  induction n using Nat.strongRecOn with
  | ind n ih =>
    by_cases hlt : n < base
    · exact ⟨n, Nat.pos_of_ne_zero hn, hlt, by rw [Nat.toDigits_of_lt_base hlt, List.head?_cons]⟩
    · have hle : base ≤ n := Nat.not_lt.mp hlt
      have hpart : n / base ≠ 0 := Nat.div_ne_zero_iff.mpr ⟨by omega, hle⟩
      obtain ⟨d, hpos, hd, hhead⟩ := ih (n / base) (Nat.div_lt_self (by omega) hbase) hpart
      refine ⟨d, hpos, hd, ?_⟩
      rw [Nat.toDigits_of_base_le hbase hle, List.head?_append, hhead, Option.some_or]

/-- Digits are read back, also when each is written in a way of its own. -/
theorem read?_map_toDigits {f : Char → Char}
    (hf : ∀ d < base, digitValue? (f (Nat.digitChar d)) = some d) (n : Nat) :
    read? base ((Nat.toDigits base n).map f) = some n := by
  have hread : readFrom? base 0 ((Nat.toDigits base n).map f) = some n := by
    induction n using Nat.strongRecOn with
    | ind n ih =>
      have hlast : ∀ m d, d < base →
          readFrom? base m [f (Nat.digitChar d)] = some (base * m + d) := by
        intro m d hd
        simp [readFrom?, hf d hd, hd]
      by_cases hlt : n < base
      · rw [Nat.toDigits_of_lt_base hlt, List.map_singleton, hlast 0 n hlt, Nat.mul_zero,
          Nat.zero_add]
      · have hle : base ≤ n := Nat.not_lt.mp hlt
        rw [Nat.toDigits_of_base_le hbase hle, List.map_append, List.map_singleton,
          readFrom?_append, ih (n / base) (Nat.div_lt_self (by omega) hbase), Option.bind_some,
          hlast _ _ (Nat.mod_lt n (by omega)), Nat.div_add_mod]
  rw [read?, if_neg (by simp [Nat.toDigits_ne_nil]), hread]

/-- The digits of a number, with the letters in either case, are its numeral. -/
theorem isNumeral_toDigits (hle : base ≤ 16) (upper : Bool) (n : Nat) :
    IsNumeral base upper n
      (if upper then (Nat.toDigits base n).map Char.toUpper else Nat.toDigits base n) := by
  have hdigit : ∀ d < base, d < 16 := fun d hd => Nat.lt_of_lt_of_le hd hle
  have hzero : ∀ t : Text, n = 0 → t = Nat.toDigits base n → t = ['0'] := by
    rintro t rfl rfl
    exact Nat.toDigits_of_lt_base (by omega)
  cases upper with
  | false =>
    refine ⟨?_, fun hhead => ?_, fun c hc => ?_⟩
    · simpa using read?_map_toDigits hbase (f := id)
        (fun d hd => digitValue?_digitChar d (hdigit d hd)) n
    · by_cases hn : n = 0
      · exact hzero _ hn rfl
      · obtain ⟨d, hpos, hd, hd'⟩ := head?_toDigits hbase hn
        rw [if_neg Bool.false_ne_true, hd', Option.some.injEq, Nat.digitChar_eq_zero] at hhead
        omega
    · obtain ⟨d, hd, rfl⟩ := exists_digit_of_mem_toDigits hbase hc
      exact (toLower_digitChar d (hdigit d hd)).symm
  | true =>
    refine ⟨?_, fun hhead => ?_, fun c hc => ?_⟩
    · exact read?_map_toDigits hbase (fun d hd => digitValue?_toUpper_digitChar d (hdigit d hd)) n
    · by_cases hn : n = 0
      · rw [if_pos rfl, hzero _ hn rfl]
        rfl
      · obtain ⟨d, hpos, hd, hd'⟩ := head?_toDigits hbase hn
        rw [if_pos rfl, List.head?_map, hd', Option.map_some, Option.some.injEq] at hhead
        exact absurd hhead (toUpper_digitChar_ne_zero d (hdigit d hd) hpos)
    · obtain ⟨digit, hmem, rfl⟩ := List.mem_map.mp hc
      obtain ⟨d, hd, rfl⟩ := exists_digit_of_mem_toDigits hbase hmem
      exact (toUpper_toUpper_digitChar d (hdigit d hd)).symm

end

/-! ## Commas -/

theorem filter_groupDigits (t : Text) :
    (groupDigits t).filter (· ≠ ',') = t.filter (· ≠ ',') := by
  induction t with
  | nil => rfl
  | cons d ds ih =>
    have hds : (',' :: groupDigits ds).filter (· ≠ ',') = ds.filter (· ≠ ',') := by
      rw [List.filter_cons_of_neg (by simp), ih]
    rw [groupDigits]
    split
    · rw [List.filter_cons, hds, List.filter_cons (x := d)]
    · rw [List.filter_cons, ih, List.filter_cons (x := d)]

/-- Without its commas a grouped numeral is the numeral. -/
theorem filter_grouped (t : Text) : (grouped t).filter (· ≠ ',') = t.filter (· ≠ ',') := by
  rw [grouped, List.filter_append, filter_groupDigits, ← List.filter_append, leadingDigits,
    afterDigits, List.takeWhile_append_dropWhile]

theorem mem_grouped {c : Char} {t : Text} (h : c ∈ grouped t) : c = ',' ∨ c ∈ t := by
  by_cases hc : c = ','
  · exact Or.inl hc
  · refine Or.inr (List.mem_of_mem_filter (p := (· ≠ ',')) ?_)
    rw [← filter_grouped]
    exact List.mem_filter.mpr ⟨h, by simpa using hc⟩

end EscapeOnce.Numeral
