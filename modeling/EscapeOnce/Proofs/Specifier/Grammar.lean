import EscapeOnce.Proofs.Specifier.Reading
import Mathlib.Logic.ExistsUnique

/-!
# The grammar of specifiers

A specifier is written from nine parts, each of which may be left out:

    [[fill]align][sign][#][0][width][,][.precision][kind]

`Parts` is such a choice of parts, with the numbers as they are written, and `Parts.text` is the
text that they make up.  Since each reader takes off its own part and nothing of the next one, the
text is read as the value of the parts that it was made from (`Parts.parse_text`), and what can be
read was made from parts (`exists_parts_of_parse_eq_ok`).  Nothing else is read: the reader accepts
exactly the grammar.

The grammar leaves one choice.  A zero in front of the width can be the flag or a digit, and both
make up the same text.  A text has no two choices of parts in which such a zero is the flag
(`Parts.ZeroIsFlag`, `Parts.eq_of_text_eq`).  One reads its parts off the text by the readers, each
of which is a function of the text that the one before it left, so the argument is the same at every
part.

The printed form of a specifier is the text of parts with decimal numerals, so a specifier is the
reading of its printed form (`parse_print`).
-/

namespace EscapeOnce

namespace Specifier

open Numeral Outcome Text

/-- The parts that a specifier is written from. -/
@[ext]
structure Parts where
  fill : Option Char
  align : Option Align
  sign : Option Sign
  alternate : Bool
  zero : Bool
  /-- The digits of the width. -/
  width : Option Text
  grouping : Bool
  /-- The digits of the precision. -/
  precision : Option Text
  kind : Option Kind
  /-- A fill stands in front of an alignment only. -/
  align_of_fill : fill.isSome → align.isSome
  width_isNumber : ∀ digits ∈ width, IsNumber digits
  precision_isNumber : ∀ digits ∈ precision, IsNumber digits

namespace Parts

/-- What the parts make up, from the precision on. -/
def fromPrecision (p : Parts) : Text := pointed p.precision ++ (p.kind.map Kind.letter).toList

/-- What the parts make up, from the grouping on. -/
def fromGrouping (p : Parts) : Text := (if p.grouping then [','] else []) ++ p.fromPrecision

/-- What the parts make up, from the width on. -/
def fromWidth (p : Parts) : Text := p.width.getD [] ++ p.fromGrouping

/-- What the parts make up, from the zero flag on. -/
def fromZero (p : Parts) : Text := (if p.zero then ['0'] else []) ++ p.fromWidth

/-- What the parts make up, from the marker flag on. -/
def fromMarker (p : Parts) : Text := (if p.alternate then ['#'] else []) ++ p.fromZero

/-- What the parts make up, from the sign on. -/
def fromSign (p : Parts) : Text := (p.sign.map Sign.toChar).toList ++ p.fromMarker

/-- The text that the parts make up. -/
def text (p : Parts) : Text :=
  p.fill.toList ++ ((p.align.map Align.toChar).toList ++ p.fromSign)

/-- The specifier that the parts denote; without a width it has the width zero. -/
def value (p : Parts) : Specifier where
  fill := p.fill
  align := p.align
  sign := p.sign
  alternate := p.alternate
  zero := p.zero
  width := (p.width.map valueOf).getD 0
  grouping := p.grouping
  precision := p.precision.map valueOf
  kind := p.kind

/-- A zero right behind the place of the marker is the zero flag, so without that flag the width
begins with no zero. -/
def ZeroIsFlag (p : Parts) : Prop := p.zero = false → ∀ digits ∈ p.width, digits.head? ≠ some '0'

/-! ## Where each part begins -/

variable (p : Parts)

theorem from_fromPrecision : From 6 p.fromPrecision :=
  (from_pointed p.precision).append (from_kind p.kind)

theorem from_fromGrouping : From 5 p.fromGrouping :=
  (from_flag ',' 5 rfl p.grouping).append p.from_fromPrecision

theorem from_fromWidth (h : p.ZeroIsFlag) : From (if p.zero then 3 else 4) p.fromWidth := by
  refine (from_digits p.width_isNumber p.zero h).append (p.from_fromGrouping.imp fun c hc => ?_)
  split <;> omega

theorem from_fromZero : From 3 p.fromZero := by
  have hdigits : From 3 (p.width.getD []) :=
    from_digits p.width_isNumber true fun h => absurd h (by decide)
  have hwidth : From 3 p.fromWidth :=
    Begins.append hdigits (p.from_fromGrouping.imp fun c hc => Nat.le_trans (by decide) hc)
  exact Begins.append (from_flag '0' 3 rfl p.zero) hwidth

theorem from_fromMarker : From 2 p.fromMarker :=
  (from_flag '#' 2 rfl p.alternate).append p.from_fromZero

/-- Behind the alignment there are characters of the ranks in between and the letter of a kind. -/
theorem mem_fromSign {c : Char} (h : c ∈ p.fromSign) :
    1 ≤ rank c ∧ rank c < 7 ∨ ∃ kind : Kind, kind.letter = c := by
  have hflag : ∀ {present : Bool} {flag : Char}, c ∈ (if present then [flag] else []) →
      c = flag := by
    intro present flag hmem
    cases present with
    | true => exact List.mem_singleton.mp hmem
    | false => cases hmem
  have hdigit : ∀ {digits : Text}, IsNumber digits → c ∈ digits → 1 ≤ rank c ∧ rank c < 7 := by
    intro digits hdigits hmem
    rw [rank_of_isDigit (hdigits.isDigit c hmem)]
    split <;> decide
  simp only [fromSign, fromMarker, fromZero, fromWidth, fromGrouping, fromPrecision,
    List.mem_append, Option.mem_toList, Option.map_eq_some_iff] at h
  rcases h with ⟨sign, -, rfl⟩ | h | h | h | h | h | ⟨kind, -, rfl⟩
  · left
    rw [rank_toChar]
    decide
  · rw [hflag h]
    exact Or.inl (by decide)
  · rw [hflag h]
    exact Or.inl (by decide)
  · match hw : p.width with
    | none =>
      rw [hw] at h
      cases h
    | some digits =>
      rw [hw] at h
      exact Or.inl (hdigit (p.width_isNumber digits hw) h)
  · rw [hflag h]
    exact Or.inl (by decide)
  · match hp : p.precision with
    | none =>
      rw [hp] at h
      cases h
    | some digits =>
      rw [hp] at h
      rcases List.mem_cons.mp h with rfl | h
      · exact Or.inl (by decide)
      · exact Or.inl (hdigit (p.precision_isNumber digits hp) h)
  · exact Or.inr ⟨kind, rfl⟩

theorem rank_of_mem_fromSign {c : Char} (h : c ∈ p.fromSign) : 1 ≤ rank c := by
  rcases p.mem_fromSign h with h | ⟨kind, rfl⟩
  · exact h.1
  · rw [rank_letter]
    decide

/-! ## Reading the parts -/

theorem readAlign_text : readAlign p.text = ((p.fill, p.align), p.fromSign) :=
  readAlign_append p.align_of_fill fun _ => p.rank_of_mem_fromSign

theorem readSign_fromSign : readSign p.fromSign = (p.sign, p.fromMarker) :=
  readSign_append p.sign p.from_fromMarker

theorem readFlag_fromMarker : readFlag '#' p.fromMarker = (p.alternate, p.fromZero) :=
  readFlag_append '#' 2 rfl p.alternate fun _ => p.from_fromZero

theorem readFlag_fromZero (h : p.ZeroIsFlag) : readFlag '0' p.fromZero = (p.zero, p.fromWidth) := by
  refine readFlag_append '0' 3 rfl p.zero fun hzero => ?_
  have hwidth := p.from_fromWidth h
  rwa [hzero] at hwidth

theorem begins_fromGrouping : Begins (·.isDigit = false) p.fromGrouping :=
  p.from_fromGrouping.imp fun _ => isDigit_of_le_rank

theorem readNumber_fromWidth (shown : Text) :
    readNumber shown p.fromWidth = .ok (p.width.map valueOf, p.fromGrouping) :=
  readNumber_append shown p.width_isNumber p.begins_fromGrouping

theorem readFlag_fromGrouping : readFlag ',' p.fromGrouping = (p.grouping, p.fromPrecision) :=
  readFlag_append ',' 5 rfl p.grouping fun _ => p.from_fromPrecision

theorem readPrecision_fromPrecision (whole : Text) :
    readPrecision whole p.fromPrecision =
      .ok (p.precision.map valueOf, (p.kind.map Kind.letter).toList) :=
  readPrecision_append whole p.precision_isNumber (from_kind p.kind)

/-- The text that parts make up is read as their value. -/
theorem parse_text (h : p.ZeroIsFlag) : parse p.text = .ok p.value := by
  rw [parse, p.readAlign_text]
  simp only [p.readSign_fromSign, p.readFlag_fromMarker, p.readFlag_fromZero h,
    p.readNumber_fromWidth, p.readFlag_fromGrouping, p.readPrecision_fromPrecision, readKind_toList,
    bind, Except.bind, pure, Except.pure]
  rfl

end Parts

/-- A specifier that can be read was made up from parts, with a zero that can be the flag as the
flag. -/
theorem exists_parts_of_parse_eq_ok {t : Text} {s : Specifier} (h : parse t = .ok s) :
    ∃ p : Parts, p.text = t ∧ p.ZeroIsFlag ∧ p.value = s := by
  -- each reader took its part off the front of what it was given
  obtain ⟨⟨⟨fill, align⟩, signed⟩, halign⟩ : ∃ found, readAlign t = found := ⟨_, rfl⟩
  obtain ⟨⟨sign, marked⟩, hsign⟩ : ∃ found, readSign signed = found := ⟨_, rfl⟩
  obtain ⟨⟨alternate, zeroed⟩, hmarker⟩ : ∃ found, readFlag '#' marked = found := ⟨_, rfl⟩
  obtain ⟨⟨zero, sized⟩, hzero⟩ : ∃ found, readFlag '0' zeroed = found := ⟨_, rfl⟩
  rw [parse, halign] at h
  simp only [hsign, hmarker, hzero] at h
  obtain ⟨⟨number, grouped⟩, hwidth, h⟩ := bind_eq_ok.mp h
  obtain ⟨⟨grouping, precise⟩, hgrouping⟩ : ∃ found, readFlag ',' grouped = found := ⟨_, rfl⟩
  simp only [hgrouping] at h
  obtain ⟨⟨precision, lettered⟩, hprecision, h⟩ := bind_eq_ok.mp h
  obtain ⟨kind, hkind, h⟩ := bind_eq_ok.mp h
  cases h
  obtain ⟨rfl, hfill⟩ := readAlign_eq halign
  obtain rfl := readSign_eq hsign
  obtain ⟨rfl, -⟩ := readFlag_eq hmarker
  obtain ⟨rfl, hnone⟩ := readFlag_eq hzero
  obtain ⟨run, hrun, -, rfl, rfl⟩ := readNumber_eq_ok _ hwidth
  obtain ⟨rfl, -⟩ := readFlag_eq hgrouping
  obtain ⟨point, hpoint, rfl, rfl⟩ := readPrecision_eq_ok _ hprecision
  obtain rfl := readKind_eq_ok _ hkind
  refine ⟨⟨fill, align, sign, alternate, zero, run, grouping, point, kind, hfill, hrun, hpoint⟩,
    rfl, ?_, rfl⟩
  rintro hflag digits hdigits hhead
  obtain rfl : run = some digits := hdigits
  refine hnone hflag ?_
  rw [Option.getD_some, List.head?_append, hhead]
  rfl

/-! ## Two choices of parts -/

section

variable {run other : Option Text} (hrun : ∀ digits ∈ run, IsNumber digits)
  (hother : ∀ digits ∈ other, IsNumber digits)
include hrun hother

/-- Two runs of digits in front of something else are the same where the texts are. -/
theorem eq_of_getD_append_eq {t u : Text} (ht : Begins (·.isDigit = false) t)
    (hu : Begins (·.isDigit = false) u) (h : run.getD [] ++ t = other.getD [] ++ u) :
    run = other ∧ t = u := by
  have hdigits : ∀ {run : Option Text}, (∀ digits ∈ run, IsNumber digits) →
      ∀ c ∈ run.getD [], c.isDigit = true := by
    intro run hrun c hc
    match run with
    | none => cases hc
    | some digits => exact (hrun digits rfl).isDigit c hc
  have hleading : run.getD [] = other.getD [] := by
    rw [← leadingDigits_append (hdigits hrun) ht, h, leadingDigits_append (hdigits hother) hu]
  rw [hleading] at h
  refine ⟨?_, List.append_cancel_left h⟩
  match run, other with
  | none, none => rfl
  | some digits, none => exact absurd hleading (hrun digits rfl).ne_nil
  | none, some digits => exact absurd hleading.symm (hother digits rfl).ne_nil
  | some digits, some others => exact congrArg some hleading

/-- Two precisions in front of letters are the same where the texts are. -/
theorem eq_of_pointed_append_eq {t u : Text} (ht : From 7 t) (hu : From 7 u)
    (h : pointed run ++ t = pointed other ++ u) : run = other ∧ t = u := by
  have hpoint : ∀ {v w : Text}, From 7 v → v ≠ '.' :: w := by
    rintro v w hv rfl
    exact absurd (begins_cons.mp hv) (by decide)
  have hdigit : ∀ {v : Text}, From 7 v → Begins (·.isDigit = false) v := fun hv =>
    hv.imp fun c hc => isDigit_of_le_rank (Nat.le_trans (by decide) hc)
  match run, other with
  | none, none => exact ⟨rfl, h⟩
  | some digits, none => exact absurd h.symm (hpoint hu)
  | none, some digits => exact absurd h (hpoint ht)
  | some digits, some others =>
    exact eq_of_getD_append_eq hrun hother (hdigit ht) (hdigit hu) (List.cons.inj h).2

end

namespace Parts

/-- Parts that make up the same text, with a zero that can be the flag as the flag, are the same. -/
theorem eq_of_text_eq {p q : Parts} (hp : p.ZeroIsFlag) (hq : q.ZeroIsFlag) (h : p.text = q.text) :
    p = q := by
  obtain ⟨hfirst, hsigned⟩ := Prod.mk.inj
    (p.readAlign_text.symm.trans ((congrArg readAlign h).trans q.readAlign_text))
  obtain ⟨hfill, halign⟩ := Prod.mk.inj hfirst
  obtain ⟨hsign, hmarked⟩ := Prod.mk.inj
    (p.readSign_fromSign.symm.trans ((congrArg readSign hsigned).trans q.readSign_fromSign))
  obtain ⟨halternate, hzeroed⟩ := Prod.mk.inj
    (p.readFlag_fromMarker.symm.trans
      ((congrArg (readFlag '#') hmarked).trans q.readFlag_fromMarker))
  obtain ⟨hzero, hsized⟩ := Prod.mk.inj ((p.readFlag_fromZero hp).symm.trans
    ((congrArg (readFlag '0') hzeroed).trans (q.readFlag_fromZero hq)))
  -- numbers are compared by their digits, since leading zeros are lost in their values
  obtain ⟨hwidth, hgrouped⟩ := eq_of_getD_append_eq p.width_isNumber q.width_isNumber
    p.begins_fromGrouping q.begins_fromGrouping hsized
  obtain ⟨hgrouping, hprecise⟩ := Prod.mk.inj (p.readFlag_fromGrouping.symm.trans
    ((congrArg (readFlag ',') hgrouped).trans q.readFlag_fromGrouping))
  obtain ⟨hprecision, hlettered⟩ :=
    eq_of_pointed_append_eq p.precision_isNumber q.precision_isNumber
    (from_kind p.kind) (from_kind q.kind) hprecise
  have hkind : p.kind = q.kind := Except.ok.inj <|
    (readKind_toList [] p.kind).symm.trans ((congrArg (readKind []) hlettered).trans
      (readKind_toList [] q.kind))
  exact Parts.ext hfill halign hsign halternate hzero hwidth hgrouping hprecision hkind

/-- A second character that is an alignment makes the first one the fill, whatever it is. -/
theorem fill_of_text_eq {p : Parts} {c : Char} {align : Align} {t : Text}
    (h : p.text = c :: align.toChar :: t) : p.fill = some c := by
  have hread := p.readAlign_text
  rw [h, readAlign, Align.ofChar?_toChar] at hread
  exact (congrArg (fun found => found.1.1) hread).symm

/-- The same parts with the zero flag and another width. -/
def flagged (p : Parts) (width : Option Text) (h : ∀ digits ∈ width, IsNumber digits) : Parts :=
  { p with zero := true, width, width_isNumber := h }

/-- The zero that a width begins with can be taken for the flag. -/
theorem text_flagged {p : Parts} {width : Option Text} (h : ∀ digits ∈ width, IsNumber digits)
    (hzero : p.zero = false) (hwidth : p.width = some ('0' :: width.getD [])) :
    (p.flagged width h).text = p.text := by
  have hzeroed : (p.flagged width h).fromZero = p.fromZero := by
    rw [fromZero, fromWidth, fromZero, fromWidth, hzero, hwidth]
    rfl
  rw [text, fromSign, fromMarker, hzeroed]
  rfl

theorem exists_zeroIsFlag (p : Parts) : ∃ q : Parts, q.text = p.text ∧ q.ZeroIsFlag := by
  by_cases hp : p.ZeroIsFlag
  · exact ⟨p, rfl, hp⟩
  · obtain ⟨hzero, hp⟩ := Classical.not_imp.mp hp
    obtain ⟨digits, hp⟩ := Classical.not_forall.mp hp
    obtain ⟨hwidth, hhead⟩ := Classical.not_imp.mp hp
    obtain ⟨others, rfl⟩ := List.head?_eq_some_iff.mp (Classical.not_not.mp hhead)
    have hnumber := p.width_isNumber _ hwidth
    -- what is left of the width without its first digit, which may be nothing
    obtain ⟨rest, rfl, hrest⟩ : ∃ rest : Option Text,
        rest.getD [] = others ∧ ∀ digits ∈ rest, IsNumber digits := by
      by_cases hempty : others = []
      · exact ⟨none, hempty.symm, fun _ hd => absurd hd (Option.not_mem_none _)⟩
      · refine ⟨some others, rfl, ?_⟩
        rintro digits ⟨⟩
        exact ⟨hempty, fun c hc => hnumber.isDigit c (List.mem_cons_of_mem _ hc),
          valueOf_zero_cons others ▸ hnumber.valueOf_le⟩
    exact ⟨p.flagged rest hrest, text_flagged hrest hzero hwidth, fun h =>
      absurd h (by simp [flagged])⟩

end Parts

/-! ## Printed specifiers -/

/-- A specifier that has a printed form from which it can be read back. -/
structure Printable (s : Specifier) : Prop where
  align_of_fill : s.fill.isSome → s.align.isSome
  width_le : s.width ≤ widthLimit
  precision_le : ∀ precision ∈ s.precision, precision ≤ widthLimit

/-- The parts that a specifier is printed as. -/
def Parts.ofSpecifier (s : Specifier) (h : s.Printable) : Parts where
  fill := s.fill
  align := s.align
  sign := s.sign
  alternate := s.alternate
  zero := s.zero
  width := widthDigits s.width
  grouping := s.grouping
  precision := s.precision.map decimal
  kind := s.kind
  align_of_fill := h.align_of_fill
  width_isNumber := isNumber_widthDigits h.width_le
  precision_isNumber := isNumber_map_decimal h.precision_le

section

variable {s : Specifier} (h : s.Printable)
include h

theorem text_ofSpecifier : (Parts.ofSpecifier s h).text = s.print := by
  have hprecision : pointed (s.precision.map decimal) = precisionText s.precision :=
    pointed_decimal s.precision
  have hwidth : (widthDigits s.width).getD [] = widthText s.width := getD_widthDigits s.width
  simp only [Parts.text, Parts.fromSign, Parts.fromMarker, Parts.fromZero, Parts.fromWidth,
    Parts.fromGrouping, Parts.fromPrecision, Parts.ofSpecifier, hprecision, hwidth, print,
    widthText, List.append_assoc]
  cases s.precision <;> rfl

/-- A specifier is the reading of its printed form. -/
theorem parse_print : parse s.print = .ok s := by
  have hzero : (Parts.ofSpecifier s h).ZeroIsFlag := fun _ _ => head?_of_mem_widthDigits
  have hvalue : (Parts.ofSpecifier s h).value = s := by
    simp only [Parts.value, Parts.ofSpecifier, valueOf_widthDigits, valueOf_map_decimal]
  rw [← text_ofSpecifier h, Parts.parse_text _ hzero, hvalue]

/-- A character that no part but the fill and the alignment can have is in no other part. -/
theorem not_mem_print {c : Char} (hfill : s.fill ≠ some c) (hrank : rank c = 7)
    (hletter : ∀ kind : Kind, kind.letter ≠ c) : c ∉ s.print := by
  rw [← text_ofSpecifier h, Parts.text]
  intro hmem
  rcases List.mem_append.mp hmem with hmem | hmem
  · exact hfill (Option.mem_toList.mp hmem)
  · rcases List.mem_append.mp hmem with hmem | hmem
    · obtain ⟨align, -, rfl⟩ := Option.map_eq_some_iff.mp (Option.mem_toList.mp hmem)
      cases align <;> exact absurd hrank (by decide)
    · rcases Parts.mem_fromSign _ hmem with ⟨-, hlt⟩ | ⟨kind, hkind⟩
      · omega
      · exact hletter kind hkind

end

/-! ## The reader and the grammar -/

/-- A text is read as a specifier exactly when it has the form of the grammar.  Then it is made up
from one choice of parts in which a zero that can be the flag is the flag, and it is read as the
value of those parts.  In every choice of parts a second character that is an alignment makes the
first one the fill.  A specifier that can be printed is the reading of its printed form. -/
theorem parse_iff_grammar :
    (∀ t : Text,
      ((∃ s, parse t = .ok s) ↔ ∃ p : Parts, p.text = t) ∧
      ((∃ p : Parts, p.text = t) → ∃! p : Parts, p.text = t ∧ p.ZeroIsFlag) ∧
      (∀ p : Parts, p.text = t → p.ZeroIsFlag → parse t = .ok p.value) ∧
      (∀ (p : Parts) (c : Char) (align : Align) (rest : Text),
        p.text = t → t = c :: align.toChar :: rest → p.fill = some c)) ∧
    ∀ s : Specifier, s.Printable → parse s.print = .ok s := by
  refine ⟨fun t => ⟨⟨?_, ?_⟩, ?_, ?_, ?_⟩, fun s => parse_print⟩
  · rintro ⟨s, hs⟩
    obtain ⟨p, hp, -⟩ := exists_parts_of_parse_eq_ok hs
    exact ⟨p, hp⟩
  · rintro ⟨p, rfl⟩
    obtain ⟨q, hq, hzero⟩ := p.exists_zeroIsFlag
    exact ⟨q.value, hq ▸ q.parse_text hzero⟩
  · rintro ⟨p, rfl⟩
    obtain ⟨q, hq, hzero⟩ := p.exists_zeroIsFlag
    exact ⟨q, ⟨hq, hzero⟩, fun r ⟨hr, hflag⟩ => Parts.eq_of_text_eq hflag hzero (hr.trans hq.symm)⟩
  · rintro p rfl hzero
    exact p.parse_text hzero
  · rintro p c align rest rfl htext
    exact Parts.fill_of_text_eq htext

/-- A number sign as the fill, and a width and a precision with leading zeros. -/
def leadingZeros : Parts where
  fill := some '#'
  align := some .center
  sign := some .space
  alternate := true
  zero := true
  width := some "007".toList
  grouping := true
  precision := some "00".toList
  kind := some .percent
  align_of_fill := fun _ => rfl
  width_isNumber := by
    rintro digits ⟨⟩
    exact ⟨by decide, List.all_eq_true.mp rfl, by decide⟩
  precision_isNumber := by
    rintro digits ⟨⟩
    exact ⟨by decide, List.all_eq_true.mp rfl, by decide⟩

/-- The third zero in a row is a digit, and the number sign in front of the alignment is no
marker. -/
theorem parse_iff_grammar_leadingZeros :
    leadingZeros.text = "#^ #0007,.00%".toList ∧ leadingZeros.ZeroIsFlag ∧
    parse "#^ #0007,.00%".toList = .ok leadingZeros.value ∧
    (∃! p : Parts, p.text = "#^ #0007,.00%".toList ∧ p.ZeroIsFlag) ∧
    leadingZeros.value.Printable ∧ leadingZeros.value.print = "#^ #07,.0%".toList ∧
    parse "#^ #07,.0%".toList = .ok leadingZeros.value := by
  have hflag : leadingZeros.ZeroIsFlag := fun h => absurd h (by decide)
  have hprintable : leadingZeros.value.Printable :=
    ⟨fun _ => rfl, by decide, by rintro precision ⟨⟩; decide⟩
  have hgrammar := parse_iff_grammar.1 "#^ #0007,.00%".toList
  exact ⟨rfl, hflag, hgrammar.2.2.1 leadingZeros rfl hflag, hgrammar.2.1 ⟨leadingZeros, rfl⟩,
    hprintable, rfl, parse_iff_grammar.2 _ hprintable⟩

end Specifier

end EscapeOnce
