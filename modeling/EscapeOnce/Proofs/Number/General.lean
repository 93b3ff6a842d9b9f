import EscapeOnce.Proofs.Number.FloatNumeral
import EscapeOnce.Specifier.Layout

/-!
# General numerals denote the rounded number

Under the general layout a number is rounded to significant digits, and the exponent of what results
decides whether it is written exponentially.  If so, its digits are those of the rounded number.
Otherwise the number itself is rounded a second time, to the places that the exponent leaves, and
that these are the same digits is `Decimal.atPlaces_eq_significant`.

Either way the numeral denotes the rounded number.  Dropping zeros and setting a fraction of zero
are changes of a numeral that keep its value, so they are treated once for both forms.

No numeral is written with more places than `Binary64.placesLimit`.  This is met by the exponential
form of the rounded number, which is written first of all to learn the exponent, and then by the
positional form, which has more places for a number below one.  Whether a numeral is
`FloatNumeral.WithinPlaces` depends on the rounded number only, and it decides whether there is a
text at all (`Binary64.generalText_faithful`).
-/

namespace EscapeOnce

open Numeral

/-! ## The two forms -/

/-- The numeral of a number of units of `10 ^ (-places)`, with a digit in front of the point. -/
def FloatNumeral.ofPlaces (units places : Nat) : FloatNumeral :=
  let padded := List.replicate (places + 1 - (decimal units).length) '0' ++ decimal units
  { whole := padded.take (padded.length - places)
    fraction := padded.drop (padded.length - places)
    exponent := none }

/-- The exponential numeral of digits with an exponent. -/
def FloatNumeral.ofScientific (s : Scientific) : FloatNumeral where
  whole := s.digits.take 1
  fraction := s.digits.drop 1
  exponent := some (s.exponent < 0,
    List.replicate (2 - (decimal s.exponent.natAbs).length) '0' ++ decimal s.exponent.natAbs)

namespace FloatNumeral

theorem isDigit_of_mem_padded {k m : Nat} {c : Char} (h : c ∈ List.replicate k '0' ++ decimal m) :
    c.isDigit = true := by
  rcases List.mem_append.mp h with hzero | hdigit
  · rw [(List.mem_replicate.mp hzero).2]
    rfl
  · exact isDigit_of_mem_decimal hdigit

theorem valueOf_padded (k m : Nat) : valueOf (List.replicate k '0' ++ decimal m) = m := by
  rw [valueOf_append, valueOf_replicate_zero, valueOf_decimal, Nat.zero_mul, Nat.zero_add]

section

variable (units places : Nat)

theorem wellFormed_ofPlaces : (ofPlaces units places).WellFormed where
  whole_ne_nil := by
    refine List.ne_nil_of_length_pos ?_
    simp only [ofPlaces, List.length_take, List.length_append, List.length_replicate]
    omega
  whole c hc := isDigit_of_mem_padded (List.mem_of_mem_take hc)
  fraction c hc := isDigit_of_mem_padded (List.mem_of_mem_drop hc)
  exponent _ _ h := by cases h

theorem length_fraction_ofPlaces : (ofPlaces units places).fraction.length = places := by
  simp only [ofPlaces, List.length_drop, List.length_append, List.length_replicate]
  omega

theorem value_ofPlaces : (ofPlaces units places).value = units / (10 : ℚ) ^ places := by
  have hdigits : (ofPlaces units places).whole ++ (ofPlaces units places).fraction =
      List.replicate (places + 1 - (decimal units).length) '0' ++ decimal units :=
    List.take_append_drop _ _
  rw [value, hdigits, valueOf_padded, length_fraction_ofPlaces]
  simp [ofPlaces, exponentValue, div_eq_mul_inv]

end

theorem fixedDigits_eq_significand {x : Binary64} (hx : x.isFinite = true) (places : Nat) :
    x.fixedDigits places = (ofPlaces (x.toDecimal.atPlaces places) places).significand := by
  have hlength := length_fraction_ofPlaces (x.toDecimal.atPlaces places) places
  rw [Binary64.fixedDigits, if_pos hx, significand]
  by_cases hplaces : places = 0
  · have hnone : (ofPlaces (x.toDecimal.atPlaces places) places).fraction = [] :=
      List.eq_nil_of_length_eq_zero (hlength.trans hplaces)
    rw [if_pos hnone]
    simp only [hplaces, if_true, ofPlaces, Nat.sub_zero, List.take_length]
  · have hsome : (ofPlaces (x.toDecimal.atPlaces places) places).fraction ≠ [] := by
      refine List.ne_nil_of_length_pos ?_
      omega
    rw [if_neg hsome]
    simp only [hplaces, if_false, ofPlaces]

section

variable {s : Scientific} {count : Nat} (hcount : 0 < count) (hs : s.IsSignificant count)
include hcount hs

theorem wellFormed_ofScientific : (ofScientific s).WellFormed where
  whole_ne_nil := by
    have hlength := hs.length
    refine List.ne_nil_of_length_pos ?_
    simp only [ofScientific, List.length_take]
    omega
  whole c hc := hs.digits c (List.mem_of_mem_take hc)
  fraction c hc := hs.digits c (List.mem_of_mem_drop hc)
  exponent negative digits h := by
    obtain ⟨-, rfl⟩ := Prod.mk.inj (Option.some.inj h)
    refine ⟨?_, fun c hc => isDigit_of_mem_padded hc⟩
    rw [List.length_append, List.length_replicate]
    omega

theorem value_ofScientific : (ofScientific s).value = s.value := by
  have hdigits : (ofScientific s).whole ++ (ofScientific s).fraction = s.digits :=
    List.take_append_drop _ _
  have hexponent : exponentValue (ofScientific s).exponent = s.exponent := by
    simp only [ofScientific, exponentValue, valueOf_padded, decide_eq_true_eq]
    split <;> omega
  have hlength : ((ofScientific s).fraction.length : ℤ) = s.digits.length - 1 := by
    have := hs.length
    simp only [ofScientific, List.length_drop]
    omega
  rw [value, hdigits, hexponent, hlength, Scientific.value]
  congr 2
  ring

end

theorem mantissa_eq_significand (s : Scientific) : s.mantissa = (ofScientific s).significand := by
  rcases hdigits : s.digits with _ | ⟨first, _ | ⟨next, rest⟩⟩ <;>
    simp [Scientific.mantissa, significand, ofScientific, hdigits]

theorem exponent_eq_exponentText (s : Scientific) :
    FloatStyle.text.exponent s.exponent = exponentText 'e' (ofScientific s).exponent := by
  by_cases hnegative : s.exponent < 0 <;>
    simp [FloatStyle.exponent, FloatStyle.text, exponentText, ofScientific, hnegative]

/-! ## What is done to the fraction -/

/-- The zeros at the end of the fraction are dropped unless they are kept. -/
def trimmedUnless (alternate : Bool) (n : FloatNumeral) : FloatNumeral :=
  if alternate then n else n.trimmed

/-- A fraction of zero is set where there is none, if one is asked for. -/
def pointedIf (keepPoint : Bool) (n : FloatNumeral) : FloatNumeral :=
  if keepPoint then n.pointed else n

section

variable (n : FloatNumeral) (alternate keepPoint : Bool)

@[simp] theorem value_trimmedUnless : (n.trimmedUnless alternate).value = n.value := by
  cases alternate
  · exact n.value_trimmed
  · rfl

@[simp] theorem value_pointedIf : (n.pointedIf keepPoint).value = n.value := by
  cases keepPoint
  · rfl
  · exact n.value_pointed

@[simp] theorem exponent_trimmedUnless : (n.trimmedUnless alternate).exponent = n.exponent := by
  cases alternate <;> rfl

@[simp] theorem exponent_pointedIf : (n.pointedIf keepPoint).exponent = n.exponent := by
  cases keepPoint <;> rfl

variable {n}

theorem WellFormed.trimmedUnless (hn : n.WellFormed) : (n.trimmedUnless alternate).WellFormed := by
  cases alternate
  · exact hn.trimmed
  · exact hn

theorem WellFormed.pointedIf (hn : n.WellFormed) : (n.pointedIf keepPoint).WellFormed := by
  cases keepPoint
  · exact hn
  · exact hn.pointed

theorem significand_trimmedUnless (hn : n.WellFormed) :
    (n.trimmedUnless alternate).significand =
      if alternate then n.significand else withoutTrailingZeros n.significand := by
  cases alternate
  · exact (withoutTrailingZeros_significand hn).symm
  · rfl

theorem significand_pointedIf (hn : n.WellFormed) :
    (n.pointedIf keepPoint).significand =
      if keepPoint then withPoint n.significand else n.significand := by
  cases keepPoint
  · rfl
  · exact (withPoint_significand hn).symm

theorem fraction_pointed_ne_nil (n : FloatNumeral) : n.pointed.fraction ≠ [] := by
  by_cases hfraction : n.fraction = [] <;> simp [pointed, hfraction]

/-- A fraction that does not end in a zero does so afterwards only if it is the zero that has been
set. -/
theorem getLast?_fraction_pointedIf (hlast : n.fraction.getLast? ≠ some '0')
    (hnone : n.exponent = none) :
    (n.pointedIf keepPoint).fraction.getLast? ≠ some '0' ∨
      (keepPoint = true ∧ (n.pointedIf keepPoint).exponent = none ∧
        (n.pointedIf keepPoint).fraction = ['0']) := by
  cases keepPoint
  · exact Or.inl hlast
  · by_cases hfraction : n.fraction = []
    · exact Or.inr ⟨rfl, hnone, if_pos hfraction⟩
    · have hkept : n.pointed.fraction = n.fraction := if_neg hfraction
      exact Or.inl (hkept ▸ hlast)

end

end FloatNumeral

/-! ## The general layout -/

/-- The numeral is a number rounded to significant digits under the general layout. -/
structure FloatNumeral.IsGeneral (count : Nat) (alternate keepPoint : Bool) (q : ℚ)
    (n : FloatNumeral) : Prop where
  /-- What is denoted is the rounded number. -/
  rounded : RoundedTo count q n.value
  /-- The exponent of the rounded number decides the form. -/
  exponential : n.exponent.isSome ↔ Int.log 10 n.value < -4 ∨ (count : ℤ) ≤ Int.log 10 n.value
  /-- No zero ends the fraction unless zeros are kept, or the fraction is the zero that has been
  set. -/
  trimmed : alternate = false →
    n.fraction.getLast? ≠ some '0' ∨ (keepPoint = true ∧ n.exponent = none ∧ n.fraction = ['0'])
  /-- A positional numeral has a fraction if one is asked for. -/
  pointed : keepPoint = true → n.exponent = none → n.fraction ≠ []

/-- A numeral with significant digits has no more places than it may have: neither in the
exponential form that its exponent is taken from, nor, if it is positional, behind its own point. -/
def FloatNumeral.WithinPlaces (count : Nat) (n : FloatNumeral) : Prop :=
  count - 1 ≤ Binary64.placesLimit ∧
    (n.exponent = none → (count : ℤ) - 1 - Int.log 10 n.value ≤ Binary64.placesLimit)

namespace Binary64

open FloatNumeral

/-- The numeral of a number under the general layout. -/
def generalNumeral (x : Binary64) (precision : Nat) (alternate keepPoint : Bool) : FloatNumeral :=
  let count := max precision 1
  let s := x.toDecimal.significant count
  if s.exponent < -4 ∨ (count : ℤ) ≤ s.exponent then (ofScientific s).trimmedUnless alternate
  else
    ((ofPlaces (valueOf s.digits) (count - 1 - s.exponent).toNat).trimmedUnless alternate).pointedIf
      keepPoint

variable (x : Binary64) (precision : Nat) (alternate keepPoint : Bool)

theorem wellFormed_generalNumeral :
    (x.generalNumeral precision alternate keepPoint).WellFormed := by
  have hcount : 0 < max precision 1 := by omega
  obtain ⟨hs, -⟩ := x.toDecimal.roundedTo_significant hcount
  simp only [generalNumeral]
  split
  · exact (wellFormed_ofScientific hcount hs).trimmedUnless alternate
  · exact ((wellFormed_ofPlaces _ _).trimmedUnless alternate).pointedIf keepPoint

/-- Both forms denote the rounded number. -/
theorem value_generalNumeral :
    (x.generalNumeral precision alternate keepPoint).value =
      (x.toDecimal.significant (max precision 1)).value := by
  have hcount : 0 < max precision 1 := by omega
  obtain ⟨hs, -⟩ := x.toDecimal.roundedTo_significant hcount
  simp only [generalNumeral]
  split
  case isTrue => rw [value_trimmedUnless, value_ofScientific hcount hs]
  case isFalse hform =>
    rw [value_pointedIf, value_trimmedUnless, value_ofPlaces, Scientific.value, hs.length,
      div_eq_mul_inv, ← zpow_natCast, ← zpow_neg]
    congr 2
    omega

theorem isGeneral_generalNumeral :
    (x.generalNumeral precision alternate keepPoint).IsGeneral (max precision 1) alternate keepPoint
      x.magnitude := by
  have hcount : 0 < max precision 1 := by omega
  obtain ⟨hs, hrounded⟩ := x.toDecimal.roundedTo_significant hcount
  have hvalue := x.value_generalNumeral precision alternate keepPoint
  refine ⟨?_, ?_, ?_, ?_⟩
  · rw [hvalue, ← x.value_toDecimal]
    exact hrounded
  · rw [hvalue, hs.exponent]
    simp only [generalNumeral]
    split
    case isTrue hform =>
      simpa only [exponent_trimmedUnless, ofScientific, Option.isSome_some, true_iff] using hform
    case isFalse hform =>
      simpa only [exponent_pointedIf, exponent_trimmedUnless, ofPlaces, Option.isSome_none,
        Bool.false_eq_true, false_iff] using hform
  · rintro rfl
    simp only [generalNumeral]
    split
    · exact Or.inl (getLast?_fraction_trimmed _)
    · exact getLast?_fraction_pointedIf keepPoint (getLast?_fraction_trimmed _) rfl
  · rintro rfl hnone
    simp only [generalNumeral] at hnone ⊢
    split at hnone
    case isTrue =>
      rw [exponent_trimmedUnless] at hnone
      cases hnone
    case isFalse hform =>
      rw [if_neg hform]
      exact fraction_pointed_ne_nil _

/-- The limit, said of the digits that the number is rounded to. -/
theorem withinPlaces_generalNumeral_iff :
    (x.generalNumeral precision alternate keepPoint).WithinPlaces (max precision 1) ↔
      max precision 1 - 1 ≤ placesLimit ∧
        (¬((x.toDecimal.significant (max precision 1)).exponent < -4 ∨
            ((max precision 1 : ℕ) : ℤ) ≤ (x.toDecimal.significant (max precision 1)).exponent) →
          ((max precision 1 : ℕ) - 1 - (x.toDecimal.significant (max precision 1)).exponent).toNat ≤
            placesLimit) := by
  have hcount : 0 < max precision 1 := by omega
  obtain ⟨hs, -⟩ := x.toDecimal.roundedTo_significant hcount
  have hgeneral := x.isGeneral_generalNumeral precision alternate keepPoint
  have hlog : Int.log 10 (x.generalNumeral precision alternate keepPoint).value =
      (x.toDecimal.significant (max precision 1)).exponent := by
    rw [value_generalNumeral, hs.exponent]
  have hnone := not_congr hgeneral.exponential
  rw [Bool.not_eq_true, Option.isSome_eq_false_iff, Option.isNone_iff_eq_none, hlog] at hnone
  rw [WithinPlaces, hnone, hlog]
  simp only [Int.toNat_le]

/-- Within the limit the text is the one of the numeral. -/
theorem general?_of_withinPlaces (hx : x.isFinite = true)
    (h : (x.generalNumeral precision alternate keepPoint).WithinPlaces (max precision 1)) :
    x.general? precision alternate keepPoint =
      some ((x.generalNumeral precision alternate keepPoint).text 'e') := by
  have hcount : 0 < max precision 1 := by omega
  obtain ⟨hs, -⟩ := x.toDecimal.roundedTo_significant hcount
  obtain ⟨hlimit, hpositional⟩ :=
    (x.withinPlaces_generalNumeral_iff precision alternate keepPoint).mp h
  by_cases hform : (x.toDecimal.significant (max precision 1)).exponent < -4 ∨
      ((max precision 1 : ℕ) : ℤ) ≤ (x.toDecimal.significant (max precision 1)).exponent
  · simp only [general?, generalNumeral, text, if_pos hx, if_pos hform, if_pos hlimit]
    rw [significand_trimmedUnless alternate (wellFormed_ofScientific hcount hs),
      exponent_trimmedUnless, ← mantissa_eq_significand, ← exponent_eq_exponentText]
  · have hlt : (x.toDecimal.significant (max precision 1)).exponent < (max precision 1 : ℕ) := by
      omega
    have hunits := x.toDecimal.atPlaces_eq_significant hcount hlt
    have hnumeral := wellFormed_ofPlaces
      (valueOf (x.toDecimal.significant (max precision 1)).digits)
      ((max precision 1 : ℕ) - 1 - (x.toDecimal.significant (max precision 1)).exponent).toNat
    simp only [general?, generalNumeral, text, if_pos hx, if_neg hform, if_pos hlimit, fixed?,
      if_pos (hpositional hform), Option.map_some]
    rw [significand_pointedIf keepPoint (hnumeral.trimmedUnless alternate),
      significand_trimmedUnless alternate hnumeral, exponent_pointedIf, exponent_trimmedUnless,
      ← hunits, ← fixedDigits_eq_significand hx]
    exact congrArg some (List.append_nil _).symm

/-- Beyond the limit there is no text. -/
theorem general?_of_not_withinPlaces (hx : x.isFinite = true)
    (h : ¬(x.generalNumeral precision alternate keepPoint).WithinPlaces (max precision 1)) :
    x.general? precision alternate keepPoint = none := by
  rw [withinPlaces_generalNumeral_iff] at h
  by_cases hlimit : max precision 1 - 1 ≤ placesLimit
  · have hboth := not_and.mp h hlimit
    obtain ⟨hform, hplaces⟩ := Classical.not_imp.mp hboth
    simp only [general?, if_pos hx, if_pos hlimit, if_neg hform, fixed?, if_neg hplaces,
      Option.map_none]
  · simp only [general?, if_pos hx, if_neg hlimit]

/-- Under the general layout a finite number has a numeral, which denotes its absolute value rounded
to the significant digits that are asked for, or to one.  It is exponential exactly if the exponent
of the rounded number is below -4 or not below the number of digits.  The text is this numeral if
its places are within the limit, and then it is read back; otherwise there is no text. -/
theorem generalText_faithful {x : Binary64} (hx : x.isFinite = true) (precision : Nat)
    (upper alternate keepPoint : Bool) :
    ∃ n : FloatNumeral, n.WellFormed ∧
      n.IsGeneral (max precision 1) alternate keepPoint x.magnitude ∧
      (n.WithinPlaces (max precision 1) →
        x.generalText? precision upper alternate keepPoint =
            some (n.text (if upper then 'E' else 'e')) ∧
          FloatNumeral.read? (n.text (if upper then 'E' else 'e')) = some n) ∧
      (¬n.WithinPlaces (max precision 1) →
        x.generalText? precision upper alternate keepPoint = none) := by
  have hn := x.wellFormed_generalNumeral precision alternate keepPoint
  refine ⟨_, hn, x.isGeneral_generalNumeral precision alternate keepPoint,
    fun hwithin => ⟨?_, ?_⟩, fun hbeyond => ?_⟩
  · rw [generalText?, general?_of_withinPlaces x precision alternate keepPoint hx hwithin]
    refine congrArg some ?_
    cases upper
    · rfl
    · exact map_toUpper_text hn
  · refine read?_text ?_ hn
    cases upper
    · exact Or.inl rfl
    · exact Or.inr rfl
  · rw [generalText?, general?_of_not_withinPlaces x precision alternate keepPoint hx hbeyond]
    rfl

/-- The number next to 9.9996 carries: with four digits it is ten.  In capital letters and with one
digit it is written exponentially. -/
theorem generalText_faithful_carry :
    generalText? ⟨0x4023FFCB923A29C7⟩ 4 false false false = some "10".toList ∧
      generalText? ⟨0x4023FFCB923A29C7⟩ 4 false false true = some "10.0".toList ∧
      generalText? ⟨0x4023FFCB923A29C7⟩ 1 true false true = some "1E+01".toList ∧
      ∃ n : FloatNumeral, FloatNumeral.read? "10".toList = some n ∧
        n.IsGeneral 4 false false (magnitude ⟨0x4023FFCB923A29C7⟩) := by
  have hfinite : isFinite ⟨0x4023FFCB923A29C7⟩ = true := by decide
  have hplain : generalText? ⟨0x4023FFCB923A29C7⟩ 4 false false false = some "10".toList := by
    decide +kernel
  have hpoint : generalText? ⟨0x4023FFCB923A29C7⟩ 4 false false true = some "10.0".toList := by
    decide +kernel
  have hupper : generalText? ⟨0x4023FFCB923A29C7⟩ 1 true false true = some "1E+01".toList := by
    decide +kernel
  obtain ⟨n, -, hgeneral, hwithin, hbeyond⟩ := generalText_faithful hfinite 4 false false false
  by_cases h : n.WithinPlaces (max 4 1)
  · obtain ⟨htext, hread⟩ := hwithin h
    rw [hplain, Option.some.injEq] at htext
    exact ⟨hplain, hpoint, hupper, n, htext ▸ hread, hgeneral⟩
  · have hnone := hbeyond h
    rw [hplain] at hnone
    cases hnone

/-- A specifier may ask for more places than a numeral is written with. -/
theorem generalText_beyond_limit :
    Specifier.parse ".65537g".toList =
        .ok { Specifier.plain with precision := some 65537, kind := some .general } ∧
      isFinite ⟨0x3FF8000000000000⟩ = true ∧
      generalText? ⟨0x3FF8000000000000⟩ 65537 false false false = none ∧
      Specifier.layoutNumber
        { Specifier.plain with precision := some 65537, kind := some .general }
        (.float ⟨0x3FF8000000000000⟩) = .error .tooManyPlaces := by
  decide +kernel

end Binary64

end EscapeOnce
