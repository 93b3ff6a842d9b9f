import EscapeOnce.Proofs.Number.Bases
import EscapeOnce.Proofs.Specifier.Layout
import EscapeOnce.Proofs.Text.Begins

/-!
# Integers are laid out faithfully

A laid out integer is a core with fill characters at the places that the alignment dictates.  The
core is a sign, the marker of the base if it is asked for, and digits, among which there may be
commas.  It is read back as the integer by a reader that knows no more than the base and the marker
(`readInteger?`).

Fill characters need not be recognized to be read past.  Zeros between the marker and the digits are
leading zeros.  A fill that can be part of no core can simply be left out, a blank too: a blank may
be the sign of a number that is not negative, but a number without a sign is not negative either.
In these two cases the whole text determines the integer (`Legible`).
-/

namespace EscapeOnce

open Numeral Text

/-! ## Padding -/

/-- The fill characters of a number: how many stand in front of it, how many between its head and
its digits, and how many behind it. -/
structure Padding where
  before : Nat
  between : Nat
  behind : Nat

/-- Where the padding of a number goes.  Of an odd gap around a centred number the smaller half
comes in front. -/
def Align.padding : Align → Nat → Padding
  | .left, gap => ⟨0, 0, gap⟩
  | .right, gap => ⟨gap, 0, 0⟩
  | .center, gap => ⟨gap / 2, 0, gap - gap / 2⟩
  | .afterSign, gap => ⟨0, gap, 0⟩

/-- A number with its padding. -/
def Padding.around (p : Padding) (fill : Char) (head digits : Text) : Text :=
  List.replicate p.before fill ++ head ++ List.replicate p.between fill ++ digits ++
    List.replicate p.behind fill

theorem Align.length_around_padding (align : Align) (gap : Nat) (fill : Char) (head digits : Text) :
    ((align.padding gap).around fill head digits).length = gap + (head ++ digits).length := by
  cases align <;>
    simp only [padding, Padding.around, List.length_append, List.length_replicate] <;> omega

namespace Specifier

theorem arrange_eq_around (s : Specifier) (f : Figure) :
    s.arrange f = (s.numberAlign.padding (s.width - (s.headText f ++ s.bodyText f).length)).around
      s.numberFill (s.headText f) (s.bodyText f) := by
  have harrange : s.arrange f =
      if s.numberAlign = .afterSign then
        s.headText f ++ List.replicate (s.width - ((s.headText f).length + (s.bodyText f).length))
          s.numberFill ++ s.bodyText f
      else
        padded s.width ((s.headText f).length + (s.bodyText f).length) s.numberFill s.numberAlign
          (s.headText f ++ s.bodyText f) := rfl
  rw [harrange, List.length_append]
  cases s.numberAlign <;> simp [Align.padding, Padding.around, padded, Align.shares]

/-! ## Integers -/

/-- The base of the numerals in which a kind lays out integers, if it does. -/
def integerBase? : Option Kind → Option Nat
  | none | some .decimal => some 10
  | some .hex | some .upperHex => some 16
  | some .octal => some 8
  | some .binary => some 2
  | _ => none

/-- The marker of the base, for the kinds that have one. -/
def baseMarker : Option Kind → Text
  | some .hex => ['0', 'x']
  | some .upperHex => ['0', 'X']
  | some .octal => ['0', 'o']
  | some .binary => ['0', 'b']
  | _ => []

/-- The marker as it is written. -/
def writtenMarker (s : Specifier) : Text := if s.alternate then baseMarker s.kind else []

/-- The sign of an integer as it is written. -/
def integerSign (s : Specifier) (i : Int64) : Text :=
  if i.toInt < 0 then ['-']
  else match s.sign with
    | some .plus => ['+']
    | some .space => [' ']
    | _ => []

/-- The numeral of the absolute value of an integer. -/
def integerNumeral (s : Specifier) (base : Nat) (i : Int64) : Text :=
  if s.kind.any Kind.isUpper then (Nat.toDigits base i.toInt.natAbs).map Char.toUpper
  else Nat.toDigits base i.toInt.natAbs

/-- The digits of an integer as they are written. -/
def integerDigits (s : Specifier) (base : Nat) (i : Int64) : Text :=
  if s.grouping then grouped (s.integerNumeral base i) else s.integerNumeral base i

section

variable {s : Specifier} {base : Nat} (hbase : integerBase? s.kind = some base)
include hbase

theorem one_lt_base : 1 < base ∧ base ≤ 16 := by
  cases hk : s.kind with
  | none =>
    rw [hk] at hbase
    cases hbase
    decide
  | some kind =>
    rw [hk] at hbase
    cases kind <;> cases hbase <;> decide

theorem figure?_int (i : Int64) :
    s.figure? (.int i) = some ⟨i.toInt < 0, baseMarker s.kind, s.integerNumeral base i⟩ := by
  cases hk : s.kind with
  | none =>
    rw [hk] at hbase
    cases hbase
    simp only [figure?, integerNumeral, hk]
    rfl
  | some kind =>
    rw [hk] at hbase
    cases kind <;> cases hbase <;> simp only [figure?, integerNumeral, hk] <;> rfl

/-- An integer that a specifier lays out as a numeral is its sign, the marker and the digits,
padded. -/
theorem layoutNumber_int_eq_ok {i : Int64} {out : Text} (h : s.layoutNumber (.int i) = .ok out) :
    out = (s.numberAlign.padding
      (s.width - (s.integerSign i ++ s.writtenMarker ++ s.integerDigits base i).length)).around
        s.numberFill (s.integerSign i ++ s.writtenMarker) (s.integerDigits base i) := by
  have hhead : s.headText ⟨i.toInt < 0, baseMarker s.kind, s.integerNumeral base i⟩ =
      s.integerSign i ++ s.writtenMarker := by
    simp only [headText, signText, integerSign, decide_eq_true_eq]
    rfl
  rcases s.layoutNumber_cases (.int i) with ⟨e, herror⟩ | ⟨code, hkind, -, -⟩ | ⟨f, hf, hfigure⟩
  · cases herror.symm.trans h
  · rw [hkind] at hbase
    cases hbase
  · rw [figure?_int hbase, Option.some.injEq] at hf
    rw [hfigure, Except.ok.injEq, ← hf, arrange_eq_around, hhead] at h
    exact h.symm

/-- Without its commas the run of digits is the numeral of the absolute value. -/
theorem isNumeral_integerDigits (i : Int64) :
    IsNumeral base (s.kind.any Kind.isUpper) i.toInt.natAbs
      ((s.integerDigits base i).filter (· ≠ ',')) ∧
    ∀ c ∈ s.integerDigits base i, c = ',' ∨ c.isAlphanum = true := by
  obtain ⟨hone, hle⟩ := one_lt_base hbase
  have halnum : ∀ c ∈ s.integerNumeral base i, c.isAlphanum = true := by
    intro c hc
    have hdigit : ∀ d < 16, (Nat.digitChar d).isAlphanum = true ∧
        (Nat.digitChar d).toUpper.isAlphanum = true := by decide
    rw [integerNumeral] at hc
    split at hc
    · obtain ⟨c, hmem, rfl⟩ := List.mem_map.mp hc
      obtain ⟨d, hd, rfl⟩ := exists_digit_of_mem_toDigits hone hmem
      exact (hdigit d (by omega)).2
    · obtain ⟨d, hd, rfl⟩ := exists_digit_of_mem_toDigits hone hc
      exact (hdigit d (by omega)).1
  have hnumeral : (s.integerDigits base i).filter (· ≠ ',') = s.integerNumeral base i := by
    have hfilter : (s.integerNumeral base i).filter (· ≠ ',') = s.integerNumeral base i := by
      refine List.filter_eq_self.mpr fun c hc => decide_eq_true ?_
      rintro rfl
      exact absurd (halnum ',' hc) (by decide)
    rw [integerDigits]
    split
    · rw [filter_grouped, hfilter]
    · exact hfilter
  refine ⟨?_, fun c hc => ?_⟩
  · rw [hnumeral]
    exact isNumeral_toDigits hone hle _ _
  · rw [integerDigits] at hc
    split at hc
    · exact (mem_grouped hc).imp_right (halnum c)
    · exact Or.inr (halnum c hc)

end

theorem isAlphanum_of_mem_writtenMarker {s : Specifier} {c : Char} (h : c ∈ s.writtenMarker) :
    c.isAlphanum = true := by
  have hmarker : ∀ kind : Option Kind, (baseMarker kind).all Char.isAlphanum = true := by
    rintro (_ | kind)
    · rfl
    · cases kind <;> rfl
  rw [writtenMarker] at h
  split at h
  · exact List.all_eq_true.mp (hmarker _) c h
  · exact absurd h List.not_mem_nil

/-! ## Reading back -/

/-- The number behind the marker of a base, commas left out. -/
def readMagnitude? (base : Nat) (marker t : Text) : Option Nat :=
  (dropStart? marker t).bind fun digits => read? base (digits.filter (· ≠ ','))

/-- The integer that a text denotes: an optional sign, the marker of a base and digits of the base,
with commas between them that do not count. -/
def readInteger? (base : Nat) (marker t : Text) : Option Int :=
  match t with
  | '-' :: t => (readMagnitude? base marker t).map fun n : Nat => -(n : Int)
  | '+' :: t => (readMagnitude? base marker t).map fun n : Nat => (n : Int)
  | ' ' :: t => (readMagnitude? base marker t).map fun n : Nat => (n : Int)
  | t => (readMagnitude? base marker t).map fun n : Nat => (n : Int)

theorem dropStart?_append (marker t : Text) : dropStart? marker (marker ++ t) = some t := by
  induction marker with
  | nil => rfl
  | cons c marker ih => rw [List.cons_append, dropStart?, if_pos rfl, ih]

/-- The text may stand for the sign of the integer. -/
def Signs (sign : Text) (i : Int64) : Prop :=
  if i.toInt < 0 then sign = ['-'] else sign ∈ [[], ['+'], [' ']]

theorem signs_integerSign (s : Specifier) (i : Int64) : Signs (s.integerSign i) i := by
  unfold Signs integerSign
  split
  · rfl
  · split <;> simp

/-- A sign, the marker and digits that denote the absolute value are read as the integer. -/
theorem readInteger?_append {base : Nat} {sign marker digits : Text} {i : Int64}
    (hsign : Signs sign i) (hdigits : read? base (digits.filter (· ≠ ',')) = some i.toInt.natAbs)
    (hbegins : Begins (fun c => c ∉ ['-', '+', ' ']) (marker ++ digits)) :
    readInteger? base marker (sign ++ marker ++ digits) = some i.toInt := by
  have hmagnitude : readMagnitude? base marker (marker ++ digits) = some i.toInt.natAbs := by
    rw [readMagnitude?, dropStart?_append, Option.bind_some, hdigits]
  rw [List.append_assoc]
  unfold Signs at hsign
  split at hsign
  · rw [hsign, List.singleton_append, readInteger?, hmagnitude, Option.map_some, Option.some.injEq]
    omega
  · have hvalue : (i.toInt.natAbs : Int) = i.toInt := by omega
    simp only [List.mem_cons, List.not_mem_nil, or_false] at hsign
    rcases hsign with rfl | rfl | rfl
    · rw [List.nil_append]
      generalize marker ++ digits = t at hmagnitude hbegins
      unfold readInteger?
      split
      · exact absurd (begins_cons.mp hbegins) (by decide)
      · exact absurd (begins_cons.mp hbegins) (by decide)
      · exact absurd (begins_cons.mp hbegins) (by decide)
      · rw [hmagnitude, Option.map_some, hvalue]
    · rw [List.singleton_append, readInteger?, hmagnitude, Option.map_some, hvalue]
    · rw [List.singleton_append, readInteger?, hmagnitude, Option.map_some, hvalue]

/-- The padding does not hide the number: it consists of leading zeros, or of a character that is no
part of any number. -/
def Legible (s : Specifier) : Prop :=
  s.numberFill = '0' ∧ s.numberAlign = .afterSign ∨
    s.numberFill.isAlphanum = false ∧ s.numberFill ∉ ['-', '+', ',']

instance (s : Specifier) : Decidable s.Legible := inferInstanceAs (Decidable (_ ∨ _))

/-- The text of a number without the fill characters that are no part of any number. -/
def unfilled (s : Specifier) (out : Text) : Text :=
  if s.numberFill = '0' then out else out.filter (· ≠ s.numberFill)

theorem Padding.filter_around (p : Padding) (fill : Char) (head digits : Text) :
    (p.around fill head digits).filter (· ≠ fill) =
      head.filter (· ≠ fill) ++ digits.filter (· ≠ fill) := by
  have hfill : ∀ n, (List.replicate n fill).filter (· ≠ fill) = [] := fun n => by simp
  simp only [Padding.around, List.filter_append, hfill, List.nil_append, List.append_nil]

/-- What is left of a sign when a character is left out that is no sign of a number but a blank. -/
theorem Signs.filter {sign : Text} {i : Int64} (h : Signs sign i) {fill : Char}
    (hminus : fill ≠ '-') (hplus : fill ≠ '+') : Signs (sign.filter (· ≠ fill)) i := by
  unfold Signs at h ⊢
  split at h
  · rw [if_pos ‹_›, h, List.filter_cons_of_pos (by simpa using hminus.symm), List.filter_nil]
  · rw [if_neg ‹_›]
    simp only [List.mem_cons, List.not_mem_nil, or_false] at h
    rcases h with rfl | rfl | rfl
    · simp
    · simp [hplus.symm]
    · by_cases hblank : fill = ' '
      · simp [hblank]
      · simp [Ne.symm hblank]

section

variable {s : Specifier} {base : Nat} (hbase : integerBase? s.kind = some base) {i : Int64}
include hbase

/-- Zeros behind the marker do not change what is read. -/
theorem readInteger?_zeros {sign : Text} (hsign : Signs sign i) (k : Nat) :
    readInteger? base s.writtenMarker
      (sign ++ s.writtenMarker ++ (List.replicate k '0' ++ s.integerDigits base i)) =
        some i.toInt := by
  obtain ⟨hnumeral, hchars⟩ := isNumeral_integerDigits hbase i
  refine readInteger?_append hsign ?_ (begins_of_forall fun c hc => ?_)
  · have hzeros : (List.replicate k '0').filter (· ≠ ',') = List.replicate k '0' := by simp
    rw [List.filter_append, hzeros]
    exact read?_replicate_zero_append (by have := one_lt_base hbase; omega) hnumeral.denotes k
  · have hplain : c = ',' ∨ c.isAlphanum = true := by
      rcases List.mem_append.mp hc with hc | hc
      · exact Or.inr (isAlphanum_of_mem_writtenMarker hc)
      · rcases List.mem_append.mp hc with hc | hc
        · rw [List.eq_of_mem_replicate hc]
          exact Or.inr (by decide)
        · exact hchars c hc
    intro hmem
    simp only [List.mem_cons, List.not_mem_nil, or_false] at hmem
    rcases hmem with rfl | rfl | rfl <;> exact absurd hplain (by decide)

/-- A legible text of an integer is read back as the integer. -/
theorem readInteger?_unfilled (hlegible : s.Legible) {out : Text}
    (h : s.layoutNumber (.int i) = .ok out) :
    readInteger? base s.writtenMarker (s.unfilled out) = some i.toInt := by
  have hsign := signs_integerSign s i
  have hout := layoutNumber_int_eq_ok hbase h
  rcases hlegible with ⟨hfill, halign⟩ | ⟨hfill, hother⟩
  · -- the padding is a run of zeros between the marker and the digits
    rw [unfilled, if_pos hfill, hout, halign, hfill]
    have hread := readInteger?_zeros hbase hsign
      (s.width - (s.integerSign i ++ s.writtenMarker ++ s.integerDigits base i).length)
    simpa only [Align.padding, Padding.around, List.replicate_zero, List.nil_append,
      List.append_nil, List.append_assoc] using hread
  · simp only [List.mem_cons, List.not_mem_nil, or_false, not_or] at hother
    obtain ⟨hminus, hplus, hcomma⟩ := hother
    have hkeep : ∀ t : Text, (∀ c ∈ t, c = ',' ∨ c.isAlphanum = true) →
        t.filter (· ≠ s.numberFill) = t := by
      intro t ht
      refine List.filter_eq_self.mpr fun c hc => decide_eq_true ?_
      rintro rfl
      rcases ht _ hc with hc | hc
      · exact hcomma hc
      · rw [hfill] at hc
        cases hc
    have hzero : s.numberFill ≠ '0' := by
      intro hzero
      rw [hzero] at hfill
      exact absurd hfill (by decide)
    rw [unfilled, if_neg hzero, hout, Padding.filter_around, List.filter_append,
      hkeep _ fun c hc => Or.inr (isAlphanum_of_mem_writtenMarker hc),
      hkeep _ (isNumeral_integerDigits hbase i).2]
    exact readInteger?_zeros hbase (hsign.filter hminus hplus) 0

/-- An integer is laid out as a core with exactly the fill characters that are missing to the width,
at the places that the alignment dictates.  The core is the sign, which is a minus exactly for
negative integers, the marker of the base if it is asked for, and digits that are the numeral of the
absolute value but for commas; it is read back as the integer.  In a legible layout different
integers have different texts. -/
theorem layoutNumber_int_faithful {out : Text} (h : s.layoutNumber (.int i) = .ok out) :
    (∃ digits : Text,
      let head := s.integerSign i ++ s.writtenMarker
      let core := head ++ digits
      out.length = max s.width core.length ∧
      out = (s.numberAlign.padding (s.width - core.length)).around s.numberFill head digits ∧
      (s.integerSign i = ['-'] ↔ i.toInt < 0) ∧
      IsNumeral base (s.kind.any Kind.isUpper) i.toInt.natAbs (digits.filter (· ≠ ',')) ∧
      readInteger? base s.writtenMarker core = some i.toInt) ∧
    (s.Legible → ∀ j, s.layoutNumber (.int j) = .ok out → i = j) := by
  have hout := layoutNumber_int_eq_ok hbase h
  have hsign := signs_integerSign s i
  refine ⟨⟨s.integerDigits base i, ?_, hout, ?_, (isNumeral_integerDigits hbase i).1,
    readInteger?_zeros hbase hsign 0⟩, fun hlegible j hj => ?_⟩
  · have hlength := congrArg List.length hout
    rw [Align.length_around_padding] at hlength
    omega
  · rw [integerSign]
    split
    · exact iff_of_true rfl ‹_›
    · refine iff_of_false ?_ ‹_›
      split <;> decide
  · have hi := readInteger?_unfilled hbase hlegible h
    have hj := readInteger?_unfilled hbase hlegible hj
    exact Int64.toInt_inj.mp (Option.some.inj (hi.symm.trans hj))

end

/-- The least integer has no positive counterpart, and its padding stands between its sign and its
grouped digits.  No other integer has its text. -/
theorem layoutNumber_int_faithful_least :
    let s := { plain with zero := true, grouping := true, width := 30 }
    let out := "-00009,223,372,036,854,775,808".toList
    integerBase? s.kind = some 10 ∧ s.Legible ∧
      s.layoutNumber (.int Int64.minValue) = .ok out ∧
      out.length = 30 ∧ ∀ j, s.layoutNumber (.int j) = .ok out → Int64.minValue = j := by
  intro s out
  have hbase : integerBase? s.kind = some 10 := rfl
  have hlegible : s.Legible := by decide
  have hlayout : s.layoutNumber (.int Int64.minValue) = .ok out := by rfl
  obtain ⟨-, hunique⟩ := layoutNumber_int_faithful hbase hlayout
  exact ⟨hbase, hlegible, hlayout, rfl, hunique hlegible⟩

/-- A fill that may be a digit hides where the padding ends. -/
example :
    let s := { plain with fill := some '1', align := some .right, width := 2 }
    s.layoutNumber (.int 1) = .ok ['1', '1'] ∧ s.layoutNumber (.int 11) = .ok ['1', '1'] := by
  exact ⟨rfl, rfl⟩

end Specifier

end EscapeOnce
