import EscapeOnce.Proofs.Text.Utf8
import Mathlib.Algebra.Ring.Nat

/-!
# The order of texts is the order of their bytes

Texts are compared by the code points of their characters, from the left.  Their UTF-8 forms compare
alike byte by byte (`compare_eq_compare_utf8`), so nobody who sorts texts has to know in which of
the two forms they are kept.

The reason is the shape of the form of a character: a first byte, which says how many bytes follow,
and then the rest of the code point in groups of six bits, from the highest to the lowest.  A
greater code point never has fewer groups, and for more groups the first byte is greater.  Between
forms of one length the first byte holds the highest part of the code point; where that is the same
for two characters, the groups behind it are the digits of two numbers to the base 64, and digits
from the highest on compare as the numbers do (`compare_continuation_append`).
-/

namespace EscapeOnce.Text

/-! ## Lists of bytes -/

theorem compare_cons_of_lt {a b : UInt8} (h : a < b) (x y : List UInt8) :
    Ord.compare (a :: x) (b :: y) = .lt := by
  rw [List.compare_eq_compareLex, List.compareLex_cons_cons, Std.compare_eq_lt.mpr h]
  rfl

theorem compare_append_append (l x y : List UInt8) :
    Ord.compare (l ++ x) (l ++ y) = Ord.compare x y := by
  induction l with
  | nil => rfl
  | cons b l ih =>
    have hself : Ord.compare b b = .eq := Std.ReflCmp.compare_self
    rw [List.compare_eq_compareLex] at ih ⊢
    rw [List.cons_append, List.cons_append, List.compareLex_cons_cons, hself, ih]
    rfl

theorem ofNat_lt_ofNat {m n : Nat} (h : m < n) (hn : n < 256) : UInt8.ofNat m < UInt8.ofNat n := by
  rw [UInt8.lt_iff_toNat_lt, UInt8.toNat_ofNat', UInt8.toNat_ofNat', Nat.mod_eq_of_lt (by omega),
    Nat.mod_eq_of_lt hn]
  exact h

/-! ## The form of a character -/

/-- The number of bytes that follow the first one in the form of the code point `n`. -/
def followers (n : Nat) : Nat :=
  if n ≤ 127 then 0 else if n ≤ 2047 then 1 else if n ≤ 65535 then 2 else 3

/-- The first byte of the form of the code point `n`. -/
def firstByte (n : Nat) : Nat :=
  if n ≤ 127 then n
  else if n ≤ 2047 then n / 64 + 192
  else if n ≤ 65535 then n / 4096 + 224
  else n / 262144 + 240

/-- The last `k` groups of six bits of a number, each in a byte of its own. -/
def continuation : Nat → Nat → List UInt8
  | 0, _ => []
  | k + 1, n => UInt8.ofNat (n / 64 ^ k % 64 + 128) :: continuation k n

theorem toNat_le (c : Char) : c.toNat ≤ 1114111 := by
  have hvalid := c.valid
  have heq : c.toNat = c.val.toNat := rfl
  simp only [UInt32.isValidChar, Nat.isValidChar] at hvalid
  omega

theorem encodeChar_eq (c : Char) :
    String.utf8EncodeChar c =
      UInt8.ofNat (firstByte c.toNat) :: continuation (followers c.toNat) c.toNat := by
  have hmax := toNat_le c
  have heq : c.val.toNat = c.toNat := rfl
  simp only [String.utf8EncodeChar, heq, firstByte, followers]
  -- the parts of a number of the right size need not be cut off at the top
  split
  · rfl
  · split
    · rw [Nat.mod_eq_of_lt (by omega)]
      simp [continuation]
    · split
      · rw [Nat.mod_eq_of_lt (b := 16) (by omega)]
        simp [continuation]
      · rw [Nat.mod_eq_of_lt (b := 8) (by omega)]
        simp [continuation]

theorem firstByte_lt (c : Char) : firstByte c.toNat < 256 := by
  have hmax := toNat_le c
  unfold firstByte
  split_ifs <;> omega

/-- Of two code points the greater one has the greater first byte, or as many bytes that follow and
a greater number in them. -/
theorem firstByte_lt_or_eq {m n : Nat} (h : m < n) :
    firstByte m < firstByte n ∨
      firstByte m = firstByte n ∧ followers m = followers n ∧
        m % 64 ^ followers n < n % 64 ^ followers n := by
  unfold firstByte followers
  split_ifs <;> omega

/-- Groups of six bits, from the highest to the lowest, compare as the numbers that they make up. -/
theorem compare_continuation_append {k m n : Nat} (h : m % 64 ^ k < n % 64 ^ k) (x y : List UInt8) :
    Ord.compare (continuation k m ++ x) (continuation k n ++ y) = .lt := by
  induction k with
  | zero => exact absurd h (by rw [Nat.pow_zero, Nat.mod_one, Nat.mod_one]; exact Nat.lt_irrefl 0)
  | succ k ih =>
    rw [Nat.mod_pow_succ, Nat.mod_pow_succ] at h
    rw [continuation, continuation, List.cons_append, List.cons_append]
    rcases Nat.lt_trichotomy (m / 64 ^ k % 64) (n / 64 ^ k % 64) with hlt | heq | hgt
    · exact compare_cons_of_lt (ofNat_lt_ofNat (by omega) (by omega)) _ _
    · rw [heq] at h ⊢
      exact (compare_append_append [_] _ _).trans (ih (by omega))
    · -- a greater group outweighs all that follow it
      have hm := Nat.mod_lt m (Nat.pow_pos (n := k) (by decide : 0 < 64))
      have hle := Nat.mul_le_mul_left (64 ^ k) hgt
      rw [Nat.mul_succ] at hle
      have := Nat.mod_lt n (Nat.pow_pos (n := k) (by decide : 0 < 64))
      omega

/-- The forms of two characters compare as their code points, whatever follows. -/
theorem compare_encodeChar_append {c d : Char} (h : c < d) (x y : List UInt8) :
    Ord.compare (String.utf8EncodeChar c ++ x) (String.utf8EncodeChar d ++ y) = .lt := by
  have hcode : c.toNat < d.toNat := UInt32.lt_iff_toNat_lt.mp h
  rw [encodeChar_eq, encodeChar_eq, List.cons_append, List.cons_append]
  rcases firstByte_lt_or_eq hcode with hlt | ⟨hfirst, hfollowers, hrest⟩
  · exact compare_cons_of_lt (ofNat_lt_ofNat hlt (firstByte_lt d)) _ _
  · rw [hfirst, hfollowers]
    exact (compare_append_append [_] _ _).trans (compare_continuation_append hrest x y)

/-- Texts compare as their bytes do. -/
theorem compare_eq_compare_utf8 (a b : Text) : compare a b = Ord.compare a.utf8 b.utf8 := by
  induction a generalizing b with
  | nil =>
    cases b with
    | nil => rfl
    | cons d b =>
      rw [utf8_cons, encodeChar_eq]
      rfl
  | cons c a ih =>
    cases b with
    | nil =>
      rw [utf8_cons, encodeChar_eq]
      rfl
    | cons d b =>
      rw [compare, List.compareLex_cons_cons, utf8_cons, utf8_cons]
      have hchar : ∀ {c d : Char}, c < d → Ord.compare c d = .lt := compareOfLessAndEq_eq_lt.mpr
      rcases Std.lt_trichotomy c d with hlt | rfl | hgt
      · rw [compare_encodeChar_append hlt, hchar hlt]
        rfl
      · have hself : Ord.compare c c = .eq := Std.ReflCmp.compare_self
        rw [compare_append_append, ← ih, hself]
        rfl
      · rw [Std.OrientedCmp.gt_of_lt (hchar hgt),
          Std.OrientedCmp.gt_of_lt (compare_encodeChar_append hgt (utf8 b) (utf8 a))]
        rfl

end EscapeOnce.Text
