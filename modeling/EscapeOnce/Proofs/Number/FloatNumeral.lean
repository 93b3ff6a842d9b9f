import EscapeOnce.Binary64.Written
import EscapeOnce.Proofs.Number.Rounding
import Mathlib.Data.List.DropRight

/-!
# Numerals of floating-point numbers

A floating-point number is written with digits, perhaps a point and digits behind it, and perhaps an
exponent, which is a letter, a sign and at least two digits.  A `FloatNumeral` holds these parts and
has the number that they denote as its value.

The parts are determined by the text: `FloatNumeral.read?` takes them off it again (`read?_text`).
So a text denotes a number, and it does not matter how it was made.

Two things are done to a numeral once it is written.  Zeros at the end of the fraction are dropped,
with the point if nothing is left behind it, and a fraction of zero is set where there is none.
Both are changes of the fraction alone and keep the value (`value_trimmed`, `value_pointed`).
-/

namespace EscapeOnce

open Numeral Text

/-- The parts of the numeral of a floating-point number. -/
structure FloatNumeral where
  /-- The digits in front of the point. -/
  whole : Text
  /-- The digits behind the point; there is no point without them. -/
  fraction : Text
  /-- Whether the exponent is negative, and its digits. -/
  exponent : Option (Bool × Text)

namespace FloatNumeral

/-- There is a digit in front of the point, and an exponent has two digits or more. -/
structure WellFormed (n : FloatNumeral) : Prop where
  whole_ne_nil : n.whole ≠ []
  whole : ∀ c ∈ n.whole, c.isDigit = true
  fraction : ∀ c ∈ n.fraction, c.isDigit = true
  exponent : ∀ negative digits, n.exponent = some (negative, digits) →
    2 ≤ digits.length ∧ ∀ c ∈ digits, c.isDigit = true

/-! ## The text -/

/-- The digits with the point between them. -/
def significand (n : FloatNumeral) : Text :=
  if n.fraction = [] then n.whole else n.whole ++ '.' :: n.fraction

/-- An exponent behind its letter and its sign. -/
def exponentText (mark : Char) : Option (Bool × Text) → Text
  | none => []
  | some (negative, digits) => mark :: (if negative then '-' else '+') :: digits

/-- The text of a numeral, with a letter for its exponent. -/
def text (mark : Char) (n : FloatNumeral) : Text := n.significand ++ exponentText mark n.exponent

/-! ## The value -/

/-- The power of ten that an exponent stands for. -/
def exponentValue : Option (Bool × Text) → ℤ
  | none => 0
  | some (negative, digits) => if negative then -valueOf digits else valueOf digits

/-- The number that a numeral denotes. -/
def value (n : FloatNumeral) : ℚ :=
  valueOf (n.whole ++ n.fraction) * (10 : ℚ) ^ (exponentValue n.exponent - n.fraction.length)

/-! ## Reading -/

/-- Digits behind a point, and what follows them; a point needs a digit. -/
def readFraction? : Text → Option (Text × Text)
  | '.' :: t => if leadingDigits t = [] then none else some (leadingDigits t, afterDigits t)
  | t => some ([], t)

/-- An exponent that ends the text: a letter in either case, a sign and at least two digits. -/
def readExponent? : Text → Option (Option (Bool × Text))
  | [] => some none
  | mark :: sign :: digits =>
    if (mark = 'e' ∨ mark = 'E') ∧ (sign = '+' ∨ sign = '-') ∧ 2 ≤ digits.length ∧
        digits.all Char.isDigit then
      some (some (sign = '-', digits))
    else none
  | _ => none

/-- The numeral that a text is. -/
def read? (t : Text) : Option FloatNumeral :=
  if leadingDigits t = [] then none
  else do
    let (fraction, rest) ← readFraction? (afterDigits t)
    let exponent ← readExponent? rest
    return ⟨leadingDigits t, fraction, exponent⟩

variable {n : FloatNumeral} {mark : Char}

/-- An exponent does not continue a run of digits, nor does it begin with a point. -/
theorem begins_exponentText (hmark : mark = 'e' ∨ mark = 'E') (exponent : Option (Bool × Text)) :
    Begins (fun c => c.isDigit = false ∧ c ≠ '.') (exponentText mark exponent) := by
  cases exponent with
  | none => exact begins_nil
  | some exponent =>
    refine begins_cons.mpr ?_
    rcases hmark with rfl | rfl <;> decide

theorem readExponent?_exponentText (hmark : mark = 'e' ∨ mark = 'E') (hn : n.WellFormed) :
    readExponent? (exponentText mark n.exponent) = some n.exponent := by
  cases hexponent : n.exponent with
  | none => rfl
  | some exponent =>
    obtain ⟨negative, digits⟩ := exponent
    obtain ⟨htwo, hdigits⟩ := hn.exponent negative digits hexponent
    have hall : digits.all Char.isDigit = true := List.all_eq_true.mpr hdigits
    cases negative <;> simp [exponentText, readExponent?, hmark, htwo, hall]

/-- A numeral is read off its text. -/
theorem read?_text (hmark : mark = 'e' ∨ mark = 'E') (hn : n.WellFormed) :
    read? (n.text mark) = some n := by
  obtain ⟨tail, htail⟩ : ∃ tail, exponentText mark n.exponent = tail := ⟨_, rfl⟩
  have hexponent : readExponent? tail = some n.exponent :=
    htail ▸ readExponent?_exponentText hmark hn
  have hbegins : Begins (fun c => c.isDigit = false ∧ c ≠ '.') tail :=
    htail ▸ begins_exponentText hmark n.exponent
  have hstop : Begins (·.isDigit = false) tail := hbegins.imp fun c hc => hc.1
  rw [text, significand, htail]
  by_cases hfraction : n.fraction = []
  · have hnone : readFraction? tail = some ([], tail) := by
      rw [readFraction?]
      rintro t rfl
      exact (begins_cons.mp hbegins).2 rfl
    rw [if_pos hfraction, read?, leadingDigits_append hn.whole hstop,
      afterDigits_append hn.whole hstop, if_neg hn.whole_ne_nil, hnone]
    simp [hexponent, ← hfraction]
  · have hpoint : Begins (·.isDigit = false) ('.' :: (n.fraction ++ tail)) :=
      begins_cons.mpr (by decide)
    have hsome : readFraction? ('.' :: (n.fraction ++ tail)) = some (n.fraction, tail) := by
      rw [readFraction?, leadingDigits_append hn.fraction hstop,
        afterDigits_append hn.fraction hstop, if_neg hfraction]
    rw [if_neg hfraction, List.append_assoc, List.cons_append, read?,
      leadingDigits_append hn.whole hpoint, afterDigits_append hn.whole hpoint,
      if_neg hn.whole_ne_nil, hsome]
    simp [hexponent]

/-! ## Capital letters -/

theorem toUpper_of_isDigit {c : Char} (h : c.isDigit = true) : c.toUpper = c := by
  obtain ⟨hlt, hchar⟩ := digitChar_of_isDigit h
  have hdigits : ∀ d < 10, (Nat.digitChar d).toUpper = Nat.digitChar d := by decide
  rw [← hchar, hdigits _ hlt]

theorem map_toUpper_of_isDigit {t : Text} (h : ∀ c ∈ t, c.isDigit = true) :
    t.map Char.toUpper = t :=
  (List.map_congr_left fun c hc => toUpper_of_isDigit (h c hc)).trans (List.map_id t)

/-- Only the letter of the exponent has a capital form. -/
theorem map_toUpper_text (hn : n.WellFormed) :
    (n.text mark).map Char.toUpper = n.text mark.toUpper := by
  have hsignificand : n.significand.map Char.toUpper = n.significand := by
    rw [significand]
    split
    · exact map_toUpper_of_isDigit hn.whole
    · rw [List.map_append, List.map_cons, map_toUpper_of_isDigit hn.whole,
        map_toUpper_of_isDigit hn.fraction]
      rfl
  have hexponent : (exponentText mark n.exponent).map Char.toUpper =
      exponentText mark.toUpper n.exponent := by
    cases hexponent : n.exponent with
    | none => rfl
    | some exponent =>
      obtain ⟨negative, digits⟩ := exponent
      rw [exponentText, List.map_cons, List.map_cons,
        map_toUpper_of_isDigit (hn.exponent negative digits hexponent).2]
      cases negative <;> rfl
  rw [text, List.map_append, hsignificand, hexponent, text]

/-! ## Changes of the fraction -/

/-- The numeral without the zeros at the end of its fraction. -/
def trimmed (n : FloatNumeral) : FloatNumeral :=
  { n with fraction := n.fraction.rdropWhile (· == '0') }

/-- The numeral with a fraction of zero if it has none. -/
def pointed (n : FloatNumeral) : FloatNumeral :=
  { n with fraction := if n.fraction = [] then ['0'] else n.fraction }

theorem WellFormed.trimmed (hn : n.WellFormed) : n.trimmed.WellFormed where
  whole_ne_nil := hn.whole_ne_nil
  whole := hn.whole
  fraction c hc := hn.fraction c ((List.rdropWhile_prefix _ _).subset hc)
  exponent := hn.exponent

theorem WellFormed.pointed (hn : n.WellFormed) : n.pointed.WellFormed where
  whole_ne_nil := hn.whole_ne_nil
  whole := hn.whole
  fraction c hc := by
    simp only [FloatNumeral.pointed] at hc
    split at hc
    · rw [List.mem_singleton.mp hc]
      rfl
    · exact hn.fraction c hc
  exponent := hn.exponent

/-- A trimmed fraction does not end in a zero. -/
theorem getLast?_fraction_trimmed (n : FloatNumeral) : n.trimmed.fraction.getLast? ≠ some '0' := by
  intro hlast
  have hne : n.trimmed.fraction ≠ [] := by
    intro hnil
    rw [hnil] at hlast
    cases hlast
  rw [List.getLast?_eq_some_getLast hne, Option.some.injEq] at hlast
  exact List.rdropWhile_last_not (· == '0') n.fraction hne (beq_iff_eq.mpr hlast)

/-- Zeros behind a fraction do not change what is denoted. -/
theorem value_append_zeros (whole fraction : Text) (exponent : Option (Bool × Text)) (k : Nat) :
    value ⟨whole, fraction ++ List.replicate k '0', exponent⟩ =
      value ⟨whole, fraction, exponent⟩ := by
  have hunit : (10 : ℚ) ^ (exponentValue exponent - fraction.length) =
      10 ^ k * (10 : ℚ) ^ (exponentValue exponent - (fraction.length + k : ℕ)) := by
    rw [← zpow_natCast, ← zpow_add₀ (by norm_num)]
    congr 1
    push_cast
    ring
  simp only [value, ← List.append_assoc, valueOf_append _ (List.replicate k '0'),
    List.length_append, List.length_replicate, valueOf_replicate_zero, hunit]
  push_cast
  ring

theorem value_trimmed (n : FloatNumeral) : n.trimmed.value = n.value := by
  obtain ⟨k, hzeros⟩ : ∃ k, n.fraction.rtakeWhile (· == '0') = List.replicate k '0' :=
    ⟨_, List.eq_replicate_of_mem fun c hc => by simpa using List.mem_rtakeWhile_imp hc⟩
  have hfraction : n.fraction = n.trimmed.fraction ++ List.replicate k '0' := by
    rw [← hzeros]
    exact List.rdropWhile_append_rtakeWhile.symm
  calc n.trimmed.value
      = value ⟨n.whole, n.trimmed.fraction ++ List.replicate k '0', n.exponent⟩ :=
        (value_append_zeros _ _ _ k).symm
    _ = n.value := by rw [← hfraction]

theorem value_pointed (n : FloatNumeral) : n.pointed.value = n.value := by
  by_cases hfraction : n.fraction = []
  · have hpointed : n.pointed = ⟨n.whole, n.fraction ++ List.replicate 1 '0', n.exponent⟩ := by
      rw [pointed, if_pos hfraction, hfraction]
      rfl
    rw [hpointed]
    exact value_append_zeros _ _ _ 1
  · rw [pointed, if_neg hfraction]

theorem point_not_mem_of_isDigit {t : Text} (h : ∀ c ∈ t, c.isDigit = true) : '.' ∉ t := fun hmem =>
  absurd (h '.' hmem) (by decide)

/-- A point is written exactly if there are digits behind it. -/
theorem contains_significand (hn : n.WellFormed) :
    n.significand.contains '.' = !n.fraction.isEmpty := by
  rw [significand]
  by_cases hfraction : n.fraction = []
  · simp [hfraction, point_not_mem_of_isDigit hn.whole]
  · simp [hfraction]

/-- The significand is written with a point by giving it a fraction. -/
theorem withPoint_significand (hn : n.WellFormed) :
    withPoint n.significand = n.pointed.significand := by
  rw [withPoint, contains_significand hn]
  by_cases hfraction : n.fraction = [] <;> simp [significand, pointed, hfraction]

/-- The end of a run of digits behind a point is trimmed as the run is, and the point goes with the
last digit. -/
theorem rdropWhile_point {whole fraction : Text} (hwhole : '.' ∉ whole)
    (hfraction : '.' ∉ fraction) :
    ((whole ++ '.' :: fraction).rdropWhile (· == '0')).rdropWhile (· == '.') =
      if fraction.rdropWhile (· == '0') = [] then whole
      else whole ++ '.' :: fraction.rdropWhile (· == '0') := by
  induction fraction using List.reverseRecOn with
  | nil =>
    have hself : whole.rdropWhile (· == '.') = whole :=
      List.rdropWhile_eq_self_iff.mpr fun hne hlast =>
        hwhole (beq_iff_eq.mp hlast ▸ List.getLast_mem hne)
    rw [List.rdropWhile_concat_neg _ _ _ (by decide), List.rdropWhile_concat_pos _ _ _ (by decide),
      hself]
    rfl
  | append_singleton fraction c ih =>
    rw [List.mem_append, not_or, List.mem_singleton] at hfraction
    rw [← List.cons_append, ← List.append_assoc]
    by_cases hc : c = '0'
    · rw [List.rdropWhile_concat_pos _ _ _ (by simpa using hc), ih hfraction.1,
        List.rdropWhile_concat_pos _ _ _ (by simpa using hc)]
    · rw [List.rdropWhile_concat_neg _ _ _ (by simpa using hc),
        List.rdropWhile_concat_neg _ _ _ (by simpa using Ne.symm hfraction.2),
        List.rdropWhile_concat_neg _ _ _ (by simpa using hc),
        if_neg (List.append_ne_nil_of_right_ne_nil _ (List.cons_ne_nil _ _)), List.append_assoc,
        List.cons_append]

theorem withoutTrailingZeros_significand (hn : n.WellFormed) :
    withoutTrailingZeros n.significand = n.trimmed.significand := by
  by_cases hfraction : n.fraction = []
  · have htrimmed : n.trimmed.fraction = [] := by rw [trimmed, hfraction, List.rdropWhile_nil]
    have hcontains : n.significand.contains '.' = false := by
      rw [contains_significand hn, hfraction]
      rfl
    rw [withoutTrailingZeros, hcontains, if_neg Bool.false_ne_true, significand, if_pos hfraction,
      significand, if_pos htrimmed, trimmed]
  · have hset : n.significand = n.whole ++ '.' :: n.fraction := if_neg hfraction
    have hcontains : n.significand.contains '.' = true := by
      rw [contains_significand hn]
      simpa using hfraction
    have hends : ∀ t : Text, ((t.reverse.dropWhile (· == '0')).dropWhile (· == '.')).reverse =
        (t.rdropWhile (· == '0')).rdropWhile (· == '.') := by
      intro t
      rw [List.rdropWhile, List.rdropWhile, List.reverse_reverse]
    rw [withoutTrailingZeros, if_pos hcontains, hends, hset]
    exact rdropWhile_point (point_not_mem_of_isDigit hn.whole)
      (point_not_mem_of_isDigit hn.fraction)

end FloatNumeral

end EscapeOnce
