/-!
# Texts

Every text of the library is a list of characters.  Escaping, template scanning and layout all
decide character by character from the left, so the list is the form in which each of them is a
short recursion, and it is the form in which their laws are stated.  Strings appear only where a
program reads and prints.

Two measures of a text are not its length.  `Text.utf8Size` counts the bytes of its UTF-8 form,
which is what bounds a repetition.  `Text.compare` is the dictionary order by code point, which
is also the order of the UTF-8 forms byte by byte.
-/

namespace EscapeOnce

/-- A text is the list of its characters. -/
abbrev Text := List Char

namespace Text

/-- The number of bytes of the UTF-8 form of a text. -/
def utf8Size : Text → Nat
  | [] => 0
  | c :: t => c.utf8Size + utf8Size t

/-- The bytes of the UTF-8 form of a text. -/
def utf8 (t : Text) : List UInt8 := t.flatMap String.utf8EncodeChar

/-- Dictionary order by code point; the order of UTF-8 forms byte by byte is the same. -/
def compare (a b : Text) : Ordering := List.compareLex Ord.compare a b

/-- `a` comes before `b`, or the two are equal. -/
def atMost (a b : Text) : Bool := (compare a b).isLE

/-- The parts of a text before and after the first occurrence of `c`, without that occurrence. -/
def cutAt? (c : Char) : Text → Option (Text × Text)
  | [] => none
  | d :: t => if d = c then some ([], t) else (cutAt? c t).map fun (a, b) => (d :: a, b)

/-- A cut takes a text apart into its two parts and the character between them. -/
theorem eq_append_of_cutAt?_eq_some {c : Char} {t a b : Text} (h : cutAt? c t = some (a, b)) :
    t = a ++ c :: b := by
  induction t generalizing a with
  | nil => exact absurd h (by simp [cutAt?])
  | cons d t ih =>
    by_cases hd : d = c
    · simp only [cutAt?, if_pos hd, Option.some.injEq, Prod.mk.injEq] at h
      rw [← h.1, ← h.2, hd, List.nil_append]
    · simp only [cutAt?, if_neg hd, Option.map_eq_some_iff, Prod.mk.injEq, Prod.exists] at h
      obtain ⟨a', b', hcut, ha, hb⟩ := h
      rw [← ha, List.cons_append, ih (hcut.trans (by rw [hb]))]

/-- A text is cut where the character stands for the first time. -/
theorem cutAt?_append_cons {c : Char} {a : Text} (h : c ∉ a) (b : Text) :
    cutAt? c (a ++ c :: b) = some (a, b) := by
  induction a with
  | nil => exact if_pos rfl
  | cons d a ih =>
    obtain ⟨hd, ha⟩ := List.ne_and_not_mem_of_not_mem_cons h
    rw [List.cons_append, cutAt?, if_neg hd.symm, ih ha]
    rfl

/-- Dropping a beginning does not make a text longer. -/
theorem length_dropWhile_le (p : Char → Bool) (t : Text) : (t.dropWhile p).length ≤ t.length :=
  (List.dropWhile_suffix p).length_le

/-- The rest of a text behind a given beginning, if it begins so. -/
def dropStart? : Text → Text → Option Text
  | [], t => some t
  | _ :: _, [] => none
  | p :: ps, c :: t => if p = c then dropStart? ps t else none

end Text

end EscapeOnce
