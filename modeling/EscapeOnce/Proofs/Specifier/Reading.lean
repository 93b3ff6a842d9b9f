import EscapeOnce.Proofs.Number.Numeral
import EscapeOnce.Proofs.Outcome
import EscapeOnce.Specifier

/-!
# The readers of a specifier

The parts of a specifier stand in a fixed order, and no character can begin two of them; only behind
an alignment is this so, since any character can be a fill.  So each character has a rank, the
number of the part that it can begin.  A reader takes off its part if it is there and otherwise
nothing, as long as what follows begins at a higher rank, which the later parts do.

The zero flag is the one part that could begin another, the width.  A reader that has met no zero
flag has left no zero behind either, so a width that it goes on to read begins with another digit.

What a reader takes off is what stands in front of what it leaves: each has a lemma for either
direction, one for a part in front of a text and one for a part that has been read.  The numbers are
runs of digits that the specifier admits (`IsNumber`), which denote a number up to the limit, with
leading zeros or without.
-/

namespace EscapeOnce

open Numeral Outcome Text

/-! ## Alignments and signs -/

theorem Align.ofChar?_toChar (align : Align) : Align.ofChar? align.toChar = some align := by
  cases align <;> rfl

theorem Align.toChar_of_ofChar?_eq_some {c : Char} {align : Align}
    (h : Align.ofChar? c = some align) : align.toChar = c := by
  unfold Align.ofChar? at h
  split at h
  · cases h
    exact Eq.symm ‹c = '<'›
  · split at h
    · cases h
      exact Eq.symm ‹c = '>'›
    · split at h
      · cases h
        exact Eq.symm ‹c = '^'›
      · split at h
        · cases h
          exact Eq.symm ‹c = '='›
        · cases h

theorem Sign.toChar_of_ofChar?_eq_some {c : Char} {sign : Sign} (h : Sign.ofChar? c = some sign) :
    sign.toChar = c := by
  unfold Sign.ofChar? at h
  split at h
  · cases h
    exact Eq.symm ‹c = '-'›
  · split at h
    · cases h
      exact Eq.symm ‹c = '+'›
    · split at h
      · cases h
        exact Eq.symm ‹c = ' '›
      · cases h

namespace Specifier

/-! ## Numbers -/

/-- The run of digits can be a width or a precision. -/
structure IsNumber (digits : Text) : Prop where
  ne_nil : digits ≠ []
  isDigit : ∀ c ∈ digits, c.isDigit = true
  valueOf_le : valueOf digits ≤ widthLimit

theorem isNumber_decimal {n : Nat} (h : n ≤ widthLimit) : IsNumber (decimal n) where
  ne_nil := decimal_ne_nil n
  isDigit := fun _ => isDigit_of_mem_decimal
  valueOf_le := by rwa [valueOf_decimal]

/-- A width as it is printed. -/
def widthText (width : Nat) : Text := if width = 0 then [] else decimal width

/-- A precision as it is printed, with its point. -/
def precisionText : Option Nat → Text
  | some precision => '.' :: decimal precision
  | none => []

/-- The digits of a width as it is printed, if there are any. -/
def widthDigits (width : Nat) : Option Text := if width = 0 then none else some (decimal width)

/-- The digits of a precision, if there is one, behind a point. -/
def pointed : Option Text → Text
  | some digits => '.' :: digits
  | none => []

theorem getD_widthDigits (width : Nat) : (widthDigits width).getD [] = widthText width := by
  rw [widthDigits, widthText]
  split <;> rfl

theorem pointed_decimal (precision : Option Nat) :
    pointed (precision.map decimal) = precisionText precision := by
  cases precision <;> rfl

theorem valueOf_widthDigits (width : Nat) :
    ((widthDigits width).map valueOf).getD 0 = width := by
  rw [widthDigits]
  by_cases hzero : width = 0
  · rw [if_pos hzero]
    exact hzero.symm
  · rw [if_neg hzero]
    exact valueOf_decimal width

theorem isNumber_widthDigits {width : Nat} (h : width ≤ widthLimit) :
    ∀ digits ∈ widthDigits width, IsNumber digits := by
  intro digits hdigits
  rw [widthDigits] at hdigits
  split at hdigits
  · cases hdigits
  · cases hdigits
    exact isNumber_decimal h

theorem head?_of_mem_widthDigits {width : Nat} {digits : Text} (h : digits ∈ widthDigits width) :
    digits.head? ≠ some '0' := by
  rw [widthDigits] at h
  by_cases hzero : width = 0
  · rw [if_pos hzero] at h
    cases h
  · rw [if_neg hzero] at h
    cases h
    exact head?_decimal_ne hzero

theorem isNumber_map_decimal {precision : Option Nat} (h : ∀ p ∈ precision, p ≤ widthLimit) :
    ∀ digits ∈ precision.map decimal, IsNumber digits := by
  intro digits hdigits
  obtain ⟨p, hp, rfl⟩ := Option.map_eq_some_iff.mp hdigits
  exact isNumber_decimal (h p hp)

theorem valueOf_map_decimal (precision : Option Nat) :
    (precision.map decimal).map valueOf = precision := by
  cases precision with
  | none => rfl
  | some precision => exact congrArg some (valueOf_decimal precision)

section

variable (shown : Text) {t : Text}

/-- A number is read off whole, or nothing where there is no number. -/
theorem readNumber_append {run : Option Text} (hrun : ∀ digits ∈ run, IsNumber digits)
    (ht : Begins (·.isDigit = false) t) :
    readNumber shown (run.getD [] ++ t) = .ok (run.map valueOf, t) := by
  match run with
  | none =>
    have hdigits : leadingDigits ([] ++ t) = [] :=
      leadingDigits_append (fun _ h => absurd h List.not_mem_nil) ht
    show readNumber shown ([] ++ t) = _
    simp only [readNumber, hdigits, List.isEmpty_nil, if_true]
    rfl
  | some digits =>
    obtain ⟨hne, hdigits, hlimit⟩ := hrun digits rfl
    have hempty : digits.isEmpty = false := List.isEmpty_eq_false_iff.mpr hne
    show readNumber shown (digits ++ t) = _
    simp only [readNumber, leadingDigits_append hdigits ht, afterDigits_append hdigits ht, hempty,
      if_neg (Nat.not_lt.mpr hlimit), Bool.false_eq_true, if_false]
    rfl

/-- What has been read off is a number or nothing, and no digit is left behind it. -/
theorem readNumber_eq_ok {number : Option Nat} {rest : Text}
    (h : readNumber shown t = .ok (number, rest)) :
    ∃ run : Option Text, (∀ digits ∈ run, IsNumber digits) ∧ Begins (·.isDigit = false) rest ∧
      run.getD [] ++ rest = t ∧ run.map valueOf = number := by
  have hstop : Begins (·.isDigit = false) (afterDigits t) := begins_dropWhile _ t
  simp only [readNumber] at h
  by_cases hempty : (leadingDigits t).isEmpty = true
  · rw [if_pos hempty] at h
    cases h
    have hnil : leadingDigits t = [] := List.isEmpty_iff.mp hempty
    have hwhole : afterDigits t = t := by
      have hsplit : leadingDigits t ++ afterDigits t = t := List.takeWhile_append_dropWhile
      rwa [hnil] at hsplit
    refine ⟨none, fun _ hd => absurd hd (Option.not_mem_none _), ?_, rfl, rfl⟩
    rwa [hwhole] at hstop
  · rw [if_neg hempty] at h
    by_cases hlimit : widthLimit < valueOf (leadingDigits t)
    · rw [if_pos hlimit] at h
      cases h
    · rw [if_neg hlimit] at h
      cases h
      refine ⟨some (leadingDigits t), ?_, hstop, List.takeWhile_append_dropWhile, rfl⟩
      rintro digits ⟨⟩
      exact ⟨fun hnil => hempty (List.isEmpty_iff.mpr hnil), List.all_eq_true.mp List.all_takeWhile,
        Nat.not_lt.mp hlimit⟩

/-- A run of digits that denotes too large a number is refused, whatever follows it. -/
theorem readNumber_eq_error {digits : Text} (hdigits : ∀ c ∈ digits, c.isDigit = true)
    (hlimit : widthLimit < valueOf digits) (t : Text) :
    readNumber shown (digits ++ t) = .error (.badSpecifier (.tooManyDigits shown)) := by
  have hleading : leadingDigits (digits ++ t) = digits ++ leadingDigits t :=
    List.takeWhile_append_of_pos hdigits
  have hvalue : widthLimit < valueOf (digits ++ leadingDigits t) :=
    Nat.lt_of_lt_of_le hlimit (valueOf_le_valueOf_append digits _)
  have hne : (digits ++ leadingDigits t).isEmpty = false := by
    refine List.isEmpty_eq_false_iff.mpr fun hnil => ?_
    rw [hnil] at hvalue
    exact absurd hvalue (by decide)
  simp only [readNumber, hleading, hne, if_pos hvalue, Bool.false_eq_true, if_false]

end

/-! ## The rank of a character -/

/-- The number of the part of a specifier that a character can begin: an alignment, a sign, the
marker flag, the zero flag, a width, the grouping, a precision or a kind. -/
def rank (c : Char) : Nat :=
  if c ∈ ['<', '>', '^', '='] then 0
  else if c ∈ ['-', '+', ' '] then 1
  else if c = '#' then 2
  else if c = '0' then 3
  else if c.isDigit then 4
  else if c = ',' then 5
  else if c = '.' then 6
  else 7

theorem rank_of_isDigit {c : Char} (h : c.isDigit = true) : rank c = if c = '0' then 3 else 4 := by
  have hne : ∀ d : Char, d.isDigit = false → c ≠ d := by
    rintro d hd rfl
    exact absurd (hd.symm.trans h) (by decide)
  rw [rank, if_neg, if_neg, if_neg (hne '#' rfl), if_pos h]
  · simp [hne '-' rfl, hne '+' rfl, hne ' ' rfl]
  · simp [hne '<' rfl, hne '>' rfl, hne '^' rfl, hne '=' rfl]

theorem isDigit_of_le_rank {c : Char} (h : 5 ≤ rank c) : c.isDigit = false := by
  refine Bool.eq_false_iff.mpr fun hdigit => ?_
  rw [rank_of_isDigit hdigit] at h
  split at h <;> omega

theorem alignOfChar?_of_le_rank {c : Char} (h : 1 ≤ rank c) : Align.ofChar? c = none := by
  have hne : ∀ d : Char, rank d = 0 → c ≠ d := by
    rintro d hd rfl
    omega
  rw [Align.ofChar?, if_neg (hne '<' rfl), if_neg (hne '>' rfl), if_neg (hne '^' rfl),
    if_neg (hne '=' rfl)]

theorem signOfChar?_of_le_rank {c : Char} (h : 2 ≤ rank c) : Sign.ofChar? c = none := by
  have hne : ∀ d : Char, rank d = 1 → c ≠ d := by
    rintro d hd rfl
    omega
  rw [Sign.ofChar?, if_neg (hne '-' rfl), if_neg (hne '+' rfl), if_neg (hne ' ' rfl)]

theorem rank_letter (kind : Kind) : rank kind.letter = 7 := by
  cases kind <;> rfl

theorem rank_toChar (sign : Sign) : rank sign.toChar = 1 := by
  cases sign <;> rfl

/-- The text is empty or begins at a rank. -/
abbrev From (n : Nat) (t : Text) : Prop := Begins (n ≤ rank ·) t

/-- A part stands in front of parts of higher ranks. -/
theorem From.append {n : Nat} {part t : Text} (hpart : From n part) (ht : From (n + 1) t) :
    From n (part ++ t) :=
  Begins.append hpart (Begins.imp ht fun _ => Nat.le_of_succ_le)

theorem from_flag (flag : Char) (n : Nat) (h : rank flag = n) (present : Bool) :
    From n (if present then [flag] else []) := by
  cases present with
  | true => exact begins_cons.mpr (Nat.le_of_eq h.symm)
  | false => exact begins_nil

theorem from_kind (kind : Option Kind) : From 7 (kind.map Kind.letter).toList := by
  cases kind with
  | none => exact begins_nil
  | some kind => exact begins_cons.mpr (Nat.le_of_eq (rank_letter kind).symm)

theorem from_pointed (run : Option Text) : From 6 (pointed run) := by
  cases run with
  | none => exact begins_nil
  | some digits => exact begins_cons.mpr (by decide)

/-- A run of digits begins at the rank of the zero flag, and at that of a width unless it begins
with a zero. -/
theorem from_digits {run : Option Text} (hrun : ∀ digits ∈ run, IsNumber digits) (present : Bool)
    (hzero : present = false → ∀ digits ∈ run, digits.head? ≠ some '0') :
    From (if present then 3 else 4) (run.getD []) := by
  match run with
  | none => exact begins_nil
  | some digits =>
    intro c hc
    have hdigit : c.isDigit = true := (hrun digits rfl).isDigit c (List.mem_of_mem_head? hc)
    rw [rank_of_isDigit hdigit]
    by_cases hpresent : present = true
    · rw [if_pos hpresent]
      split <;> omega
    · have hne : c ≠ '0' := by
        rintro rfl
        exact hzero (Bool.eq_false_iff.mpr hpresent) digits rfl hc
      rw [if_neg hpresent]
      exact Nat.le_of_eq (if_neg hne).symm

/-! ## The readers -/

section

variable {t : Text}

/-- A fill and an alignment, or an alignment alone, is read off in front of a text without
alignments. -/
theorem readAlign_append {fill : Option Char} {align : Option Align}
    (hfill : fill.isSome → align.isSome) (ht : ∀ c ∈ t, 1 ≤ rank c) :
    readAlign (fill.toList ++ ((align.map Align.toChar).toList ++ t)) = ((fill, align), t) := by
  have hnone : ∀ c ∈ t, Align.ofChar? c = none := fun c hc => alignOfChar?_of_le_rank (ht c hc)
  match fill, align, hfill with
  | some c, none, hfill => exact absurd (hfill rfl) (by decide)
  | some c, some align, _ =>
    show readAlign (c :: align.toChar :: t) = _
    rw [readAlign, Align.ofChar?_toChar]
  | none, some align, _ =>
    show readAlign (align.toChar :: t) = _
    cases t with
    | nil => rw [readAlign, Align.ofChar?_toChar]
    | cons d t => rw [readAlign, hnone d List.mem_cons_self, Align.ofChar?_toChar]
  | none, none, _ =>
    show readAlign t = _
    match t, hnone with
    | [], _ => rfl
    | [c], hnone => rw [readAlign, hnone c List.mem_cons_self]
    | c :: d :: t, hnone =>
      rw [readAlign, hnone c List.mem_cons_self,
        hnone d (List.mem_cons_of_mem _ List.mem_cons_self)]

theorem readAlign_eq {fill : Option Char} {align : Option Align} {rest : Text}
    (h : readAlign t = ((fill, align), rest)) :
    fill.toList ++ ((align.map Align.toChar).toList ++ rest) = t ∧
      (fill.isSome → align.isSome) := by
  match t with
  | [] =>
    cases h
    exact ⟨rfl, fun h => h⟩
  | [c] =>
    rw [readAlign] at h
    match hc : Align.ofChar? c with
    | some found =>
      rw [hc] at h
      cases h
      rw [← Align.toChar_of_ofChar?_eq_some hc]
      exact ⟨rfl, fun _ => rfl⟩
    | none =>
      rw [hc] at h
      cases h
      exact ⟨rfl, fun h => h⟩
  | c :: d :: t =>
    rw [readAlign] at h
    match hd : Align.ofChar? d, hc : Align.ofChar? c with
    | some found, _ =>
      rw [hd] at h
      cases h
      rw [← Align.toChar_of_ofChar?_eq_some hd]
      exact ⟨rfl, fun _ => rfl⟩
    | none, some found =>
      rw [hd, hc] at h
      cases h
      rw [← Align.toChar_of_ofChar?_eq_some hc]
      exact ⟨rfl, fun _ => rfl⟩
    | none, none =>
      rw [hd, hc] at h
      cases h
      exact ⟨rfl, fun h => h⟩

theorem readSign_append (sign : Option Sign) (ht : From 2 t) :
    readSign ((sign.map Sign.toChar).toList ++ t) = (sign, t) := by
  match sign with
  | some sign => cases sign <;> rfl
  | none =>
    show readSign t = _
    cases t with
    | nil => rfl
    | cons c t => rw [readSign, signOfChar?_of_le_rank (begins_cons.mp ht)]

theorem readSign_eq {sign : Option Sign} {rest : Text} (h : readSign t = (sign, rest)) :
    (sign.map Sign.toChar).toList ++ rest = t := by
  cases t with
  | nil =>
    cases h
    rfl
  | cons c t =>
    rw [readSign] at h
    cases hc : Sign.ofChar? c with
    | some found =>
      rw [hc] at h
      cases h
      rw [← Sign.toChar_of_ofChar?_eq_some hc]
      rfl
    | none =>
      rw [hc] at h
      cases h
      rfl

/-- A flag is read off if it is there; where it is not, what follows must not begin with its
character. -/
theorem readFlag_append (flag : Char) (n : Nat) (h : rank flag = n) (present : Bool)
    (ht : present = false → From (n + 1) t) :
    readFlag flag ((if present then [flag] else []) ++ t) = (present, t) := by
  cases present with
  | true =>
    show readFlag flag (flag :: t) = _
    rw [readFlag, if_pos rfl]
  | false =>
    show readFlag flag t = _
    cases t with
    | nil => rfl
    | cons c t =>
      have hne : c ≠ flag := by
        rintro rfl
        have hc : n + 1 ≤ rank c := begins_cons.mp (ht rfl)
        omega
      rw [readFlag, if_neg hne]

/-- A flag that has not been read is not there. -/
theorem readFlag_eq {flag : Char} {present : Bool} {rest : Text}
    (h : readFlag flag t = (present, rest)) :
    (if present then [flag] else []) ++ rest = t ∧ (present = false → rest.head? ≠ some flag) := by
  cases t with
  | nil =>
    cases h
    exact ⟨rfl, fun _ => by simp⟩
  | cons c t =>
    rw [readFlag] at h
    by_cases hc : c = flag
    · rw [if_pos hc] at h
      cases h
      exact ⟨by rw [hc]; rfl, fun h => absurd h (by decide)⟩
    · rw [if_neg hc] at h
      cases h
      exact ⟨rfl, fun _ hhead => hc (Option.some.inj hhead)⟩

section

variable (whole : Text)

theorem readPrecision_append {run : Option Text} (hrun : ∀ digits ∈ run, IsNumber digits)
    (ht : From 7 t) : readPrecision whole (pointed run ++ t) = .ok (run.map valueOf, t) := by
  have hdigit : Begins (·.isDigit = false) t := ht.imp fun c hc =>
    isDigit_of_le_rank (Nat.le_trans (by decide) hc)
  match run with
  | some digits =>
    have hnumber := readNumber_append whole hrun hdigit
    show readPrecision whole ('.' :: (digits ++ t)) = _
    rw [readPrecision]
    show (readNumber whole ((some digits).getD [] ++ t) >>= _) = _
    rw [hnumber]
    rfl
  | none =>
    show readPrecision whole t = _
    rw [readPrecision]
    · rfl
    · rintro rest rfl
      exact absurd (begins_cons.mp ht) (by decide)

theorem readPrecision_eq_ok {precision : Option Nat} {rest : Text}
    (h : readPrecision whole t = .ok (precision, rest)) :
    ∃ run : Option Text, (∀ digits ∈ run, IsNumber digits) ∧ pointed run ++ rest = t ∧
      run.map valueOf = precision := by
  unfold readPrecision at h
  split at h
  case h_1 u =>
    obtain ⟨⟨number, left⟩, hnumber, h⟩ := bind_eq_ok.mp h
    obtain ⟨run, hrun, -, rfl, rfl⟩ := readNumber_eq_ok whole hnumber
    match run with
    | none => cases h
    | some digits =>
      cases h
      exact ⟨some digits, hrun, rfl, rfl⟩
  case h_2 =>
    cases h
    exact ⟨none, fun _ hd => absurd hd (Option.not_mem_none _), rfl, rfl⟩

theorem readKind_toList (kind : Option Kind) :
    readKind whole (kind.map Kind.letter).toList = .ok kind := by
  match kind with
  | none => rfl
  | some kind => cases kind <;> rfl

theorem readKind_eq_ok {kind : Option Kind} (h : readKind whole t = .ok kind) :
    (kind.map Kind.letter).toList = t := by
  match t with
  | [] =>
    cases h
    rfl
  | [c] =>
    rw [readKind] at h
    cases hkind : Kind.ofLetter? c with
    | none =>
      rw [hkind] at h
      cases h
    | some found =>
      rw [hkind] at h
      cases h
      have hletter := List.find?_some hkind
      rw [← beq_iff_eq.mp hletter]
      rfl
  | _ :: _ :: _ => cases h

end

end

end Specifier

end EscapeOnce
