import EscapeOnce.SafeText.Operations

/-!
# Repetitions with a count of 64 bits

The number of repetitions is a word, and a repetition that is larger than a text can be has no
result that a program could go on with: it stops.  Whoever takes the count from somewhere else asks
first.  `SafeText.checkedRepeat` computes the size that the repetition would have and repeats the
text only if there is room for it.

That size is computed in a word too.  A product that no word can hold is not what its last 64 bits
say, so it counts as too large by itself, before it is compared with anything.
-/

namespace EscapeOnce.SafeText

/-- The program stops, because a text would be larger than a text can be. -/
inductive Overflow where
  | capacity
  deriving DecidableEq

/-- The safe text `n` times over, which stops the program if that is too large. -/
def repeated (s : SafeText) (n : UInt64) : Except Overflow SafeText :=
  match s.repeat? n.toNat with
  | some r => .ok r
  | none => .error .capacity

instance : HMul SafeText UInt64 (Except Overflow SafeText) := ⟨repeated⟩

/-- A size as many times as a count says, if a word can hold it. -/
def sizeTimes? (size : Nat) (n : UInt64) : Option UInt64 :=
  if size * n.toNat < UInt64.size then some (UInt64.ofNat (size * n.toNat)) else none

/-- The safe text `n` times over, or nothing if that is larger than a text can be. -/
def checkedRepeat (s : SafeText) (n : UInt64) : Except Overflow (Option SafeText) :=
  match (sizeTimes? s.utf8Size n).filter (· ≤ UInt64.ofNat sizeLimit) with
  | some _ => (s.repeated n).map some
  | none => .ok none

end EscapeOnce.SafeText
