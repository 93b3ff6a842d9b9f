import EscapeOnce.Proofs.Specifier.Reading
import EscapeOnce.Proofs.Template.Reading

/-!
# Directives survive writing

A directive is read by taking off a key, a run of flags, a width, a precision, a run of length
modifiers and a conversion, each of them up to the first character that cannot belong to it.  The
ranks of the characters of specifiers serve here as well: flags have the lowest ranks, the digits of
a width that are no flags the next one, a point a higher one, and modifiers and conversions, which
are letters, the highest.  So a directive that was written in this order is read back as its parts
(`Parts.parse_before`), where of the flags only counts which of them occur.

A key may hold any character.  Its end is found by counting parentheses, and a key whose parentheses
are balanced leaves the count where it was, wherever it stands (`Balanced.cutKey?_append`).

The conversion ends the directive, so what follows is left as it is, whatever it is
(`parse_written`).  A width or a precision beyond the limit ends the reading at once.
-/

namespace EscapeOnce.Directive

open Numeral Outcome Specifier Text

/-- The conversions that exist. -/
def conversions : Text := "sracdiuxXofFeEgG".toList

theorem rank_of_mem_conversions {c : Char} (h : c ∈ conversions) : rank c = 7 := by
  have hall : conversions.all (rank · == 7) = true := by decide
  exact beq_iff_eq.mp (List.all_eq_true.mp hall c h)

theorem isModifier_of_mem_conversions {c : Char} (h : c ∈ conversions) : isModifier c = false := by
  have hall : conversions.all (isModifier · == false) = true := by decide
  exact beq_iff_eq.mp (List.all_eq_true.mp hall c h)

theorem rank_of_isModifier {c : Char} (h : isModifier c = true) : rank c = 7 := by
  simp only [isModifier, Bool.or_eq_true, beq_iff_eq] at h
  rcases h with (rfl | rfl) | rfl <;> rfl

theorem rank_of_isFlag {c : Char} (h : isFlag c = true) : rank c ≤ 3 := by
  simp only [isFlag, Bool.or_eq_true, beq_iff_eq] at h
  rcases h with (((rfl | rfl) | rfl) | rfl) | rfl <;> decide

theorem isFlag_of_le_rank {c : Char} (h : 4 ≤ rank c) : isFlag c = false := by
  refine Bool.eq_false_iff.mpr fun hflag => ?_
  have := rank_of_isFlag hflag
  omega

/-! ## Keys -/

/-- Every parenthesis in the text has its partner in it. -/
inductive Balanced : Text → Prop
  | nil : Balanced []
  | plain {c : Char} {t : Text} (hopen : c ≠ '(') (hclose : c ≠ ')') (ht : Balanced t) :
      Balanced (c :: t)
  | nested {t u : Text} (ht : Balanced t) (hu : Balanced u) : Balanced ('(' :: t ++ ')' :: u)

/-- A balanced text belongs to the key that it stands in, at every depth. -/
theorem Balanced.cutKey?_append {t : Text} (h : Balanced t) (depth : Nat) (u : Text) :
    cutKey? depth (t ++ u) = (cutKey? depth u).map fun cut => (t ++ cut.1, cut.2) := by
  induction h generalizing depth u with
  | nil =>
    rw [List.nil_append]
    cases cutKey? depth u <;> rfl
  | plain hopen hclose ht ih =>
    rw [List.cons_append, cutKey?_cons_of_ne hclose, if_neg hopen, ih, Option.map_map]
    rfl
  | @nested t v ht hv iht ihv =>
    -- the closing parenthesis takes back the depth that the opening one added
    have hclosed : cutKey? (depth + 1) (')' :: (v ++ u)) =
        (cutKey? depth (v ++ u)).map fun cut => (')' :: cut.1, cut.2) := rfl
    have hassoc : '(' :: t ++ ')' :: v ++ u = '(' :: (t ++ ')' :: (v ++ u)) := by simp
    rw [hassoc, cutKey?_cons_of_ne (by decide), if_pos rfl, iht, hclosed, ihv]
    simp only [Option.map_map]
    refine congrArg (Option.map · _) (funext fun cut => ?_)
    simp

/-- A key as it is written, if there is one. -/
def keyText : Option Text → Text
  | some key => '(' :: key ++ [')']
  | none => []

/-- A key is taken off, or nothing where there is none. -/
theorem readKey_append {key : Option Text} (hkey : ∀ k ∈ key, Balanced k) {t : Text}
    (ht : Begins (· ≠ '(') t) : readKey (keyText key ++ t) = .ok (key, t) := by
  match key with
  | none => exact readKey_of_begins ht
  | some key =>
    have hcut : cutKey? 0 (key ++ ')' :: t) = some (key, t) := by
      rw [(hkey key rfl).cutKey?_append]
      exact congrArg (fun key => some (key, t)) (List.append_nil key)
    have hassoc : keyText (some key) ++ t = '(' :: (key ++ ')' :: t) := by simp [keyText]
    rw [hassoc, readKey, hcut]

/-! ## The parts of a directive -/

/-- The parts that a directive is written from. -/
structure Parts where
  key : Option Text
  /-- Flags may come in any order and more than once. -/
  flags : Text
  /-- The digits of the width. -/
  width : Option Text
  /-- The point of a precision, if there is one, with the digits behind it, if there are any. -/
  point : Option (Option Text)
  modifiers : Text
  conversion : Char
  key_balanced : ∀ k ∈ key, Balanced k
  isFlag_of_mem : ∀ c ∈ flags, isFlag c = true
  width_isNumber : ∀ digits ∈ width, IsNumber digits
  /-- A zero that the width began with would be one more flag. -/
  width_head : ∀ digits ∈ width, digits.head? ≠ some '0'
  point_isNumber : ∀ run ∈ point, ∀ digits ∈ run, IsNumber digits
  isModifier_of_mem : ∀ c ∈ modifiers, isModifier c = true
  conversion_mem : conversion ∈ conversions

/-- A point with digits behind it, of which there may be none. -/
def pointText : Option (Option Text) → Text
  | some run => '.' :: run.getD []
  | none => []

namespace Parts

/-- What the parts make up, from the modifiers on. -/
def fromModifiers (p : Parts) (rest : Text) : Text := p.modifiers ++ p.conversion :: rest

/-- What the parts make up, from the point on. -/
def fromPoint (p : Parts) (rest : Text) : Text := pointText p.point ++ p.fromModifiers rest

/-- What the parts make up, from the width on. -/
def fromWidth (p : Parts) (rest : Text) : Text := p.width.getD [] ++ p.fromPoint rest

/-- What the parts make up, in front of a text. -/
def before (p : Parts) (rest : Text) : Text := keyText p.key ++ (p.flags ++ p.fromWidth rest)

/-- The number that the width denotes; it is zero without a width. -/
def widthValue (p : Parts) : Nat := (p.width.map valueOf).getD 0

/-- The precision that the parts denote; a point alone stands for the precision zero. -/
def precisionValue (p : Parts) : Option Nat := p.point.map fun run => (run.map valueOf).getD 0

end Parts

/-! ## The readers -/

theorem begins_pointText {P : Char → Prop} (h : P '.') (point : Option (Option Text)) :
    Begins P (pointText point) := by
  cases point with
  | none => exact begins_nil
  | some run => exact begins_cons.mpr h

theorem readPrecision_append {point : Option (Option Text)}
    (hpoint : ∀ run ∈ point, ∀ digits ∈ run, IsNumber digits) {t : Text} (ht : From 7 t) :
    readPrecision (pointText point ++ t) =
      .ok (point.map fun run => (run.map valueOf).getD 0, t) := by
  have hdigit : Begins (·.isDigit = false) t := ht.imp fun c hc =>
    isDigit_of_le_rank (Nat.le_trans (by decide) hc)
  match point with
  | some run =>
    show readPrecision ('.' :: (run.getD [] ++ t)) = _
    rw [readPrecision, readNumber, Specifier.readNumber_append _ (hpoint run rfl) hdigit]
    rfl
  | none =>
    show readPrecision t = _
    rw [readPrecision]
    · rfl
    · rintro rest rfl
      exact absurd (begins_cons.mp ht) (by decide)

theorem readConversion_cons {c : Char} (h : c ∈ conversions) (t : Text) :
    readConversion (c :: t) = .ok (c, t) := by
  rw [readConversion]
  rintro rfl
  exact absurd h (by decide)

/-- Behind a key and a run of flags the numbers and the conversion are read. -/
theorem parse_keyText_append {key : Option Text} (hkey : ∀ k ∈ key, Balanced k) {flags t : Text}
    (hflags : ∀ c ∈ flags, isFlag c = true) (ht : Begins (isFlag · = false) t)
    (hopen : Begins (· ≠ '(') t) :
    parse (keyText key ++ (flags ++ t)) =
      readNumber t >>= fun sized => readPrecision sized.2 >>= fun precise =>
        readConversion (precise.2.dropWhile isModifier) >>= fun converted =>
          .ok (ofParts key flags (sized.1.getD 0) precise.1 converted.1, converted.2) := by
  have hparenthesis : ∀ c ∈ flags, c ≠ '(' := by
    rintro c hc rfl
    exact absurd (hflags _ hc) (by decide)
  rw [parse, readKey_append hkey ((begins_of_forall hparenthesis).append hopen)]
  simp only [bind, Except.bind, takeWhile_append_of_begins hflags ht,
    dropWhile_append_of_begins hflags ht]
  rfl

/-! ## Written directives -/

namespace Parts

variable (p : Parts) (rest : Text)

theorem from_fromModifiers : From 7 (p.fromModifiers rest) := by
  have hletter : From 7 (p.conversion :: rest) :=
    begins_cons.mpr (Nat.le_of_eq (rank_of_mem_conversions p.conversion_mem).symm)
  have hmodifiers : From 7 p.modifiers := begins_of_forall fun c hc =>
    Nat.le_of_eq (rank_of_isModifier (p.isModifier_of_mem c hc)).symm
  exact Begins.append hmodifiers hletter

theorem from_fromPoint : From 6 (p.fromPoint rest) :=
  From.append (begins_pointText (by decide) p.point) (p.from_fromModifiers rest)

theorem from_fromWidth : From 4 (p.fromWidth rest) := by
  have hdigits : From 4 (p.width.getD []) :=
    from_digits p.width_isNumber false fun _ => p.width_head
  exact Begins.append hdigits ((p.from_fromPoint rest).imp fun c hc => Nat.le_trans (by decide) hc)

/-- Behind the flags stands neither a parenthesis nor a percent sign. -/
theorem begins_fromWidth {c : Char} (hrank : rank c = 7) (hmodifier : isModifier c = false)
    (hc : c ∉ conversions) : Begins (· ≠ c) (p.fromWidth rest) := by
  have hlower : ∀ d, rank d < 7 → d ≠ c := by
    rintro d hd rfl
    omega
  have hletter : Begins (· ≠ c) (p.conversion :: rest) :=
    begins_cons.mpr fun h => hc (h ▸ p.conversion_mem)
  have hmodifiers : Begins (· ≠ c) p.modifiers := begins_of_forall fun d hd h => by
    have hd := p.isModifier_of_mem d hd
    rw [h, hmodifier] at hd
    cases hd
  have hpoint : Begins (· ≠ c) (pointText p.point) :=
    begins_pointText (hlower '.' (by decide)) p.point
  have hdigits : Begins (· ≠ c) (p.width.getD []) := by
    match hw : p.width with
    | none => exact begins_nil
    | some digits =>
      refine begins_of_forall fun d hd => hlower d ?_
      rw [rank_of_isDigit ((p.width_isNumber digits hw).isDigit d hd)]
      split <;> decide
  exact hdigits.append (hpoint.append (hmodifiers.append hletter))

/-- What the parts make up is read as the directive that consists of them, and what follows is
left. -/
theorem parse_before : parse (p.before rest) =
    .ok (ofParts p.key p.flags p.widthValue p.precisionValue p.conversion, rest) := by
  have hdigit : Begins (·.isDigit = false) (p.fromPoint rest) :=
    (p.from_fromPoint rest).imp fun c hc => isDigit_of_le_rank (Nat.le_of_succ_le hc)
  have hflag : Begins (isFlag · = false) (p.fromWidth rest) :=
    (p.from_fromWidth rest).imp fun c => isFlag_of_le_rank
  have hmodifier : (p.fromModifiers rest).dropWhile isModifier = p.conversion :: rest :=
    dropWhile_append_of_begins p.isModifier_of_mem
      (begins_cons.mpr (isModifier_of_mem_conversions p.conversion_mem))
  have hnumber : readNumber (p.fromWidth rest) = .ok (p.width.map valueOf, p.fromPoint rest) :=
    Specifier.readNumber_append _ p.width_isNumber hdigit
  have hprecision : readPrecision (p.fromPoint rest) =
      .ok (p.precisionValue, p.fromModifiers rest) :=
    readPrecision_append p.point_isNumber (p.from_fromModifiers rest)
  rw [before, parse_keyText_append p.key_balanced p.isFlag_of_mem hflag
    (p.begins_fromWidth rest rfl rfl (by decide)), hnumber]
  simp only [bind, Except.bind, hprecision, hmodifier, readConversion_cons p.conversion_mem]
  rfl

theorem begins_before : Begins (· ≠ '%') (p.before rest) := by
  have hkey : Begins (· ≠ '%') (keyText p.key) := by
    cases p.key with
    | none => exact begins_nil
    | some key => exact begins_cons.mpr (by decide)
  have hflags : Begins (· ≠ '%') p.flags := begins_of_forall fun c hc h =>
    absurd (p.isFlag_of_mem c hc) (by rw [h]; decide)
  exact hkey.append (hflags.append (p.begins_fromWidth rest rfl rfl (by decide)))

/-- Behind a percent sign the parts make up a directive of the template. -/
theorem script_before : script ('%' :: p.before rest) =
    .directive (ofParts p.key p.flags p.widthValue p.precisionValue p.conversion) (script rest) :=
  script_of_parse_eq_ok ((p.begins_before rest).head?_ne fun h => h rfl) (p.parse_before rest)

end Parts

/-! ## Numbers beyond the limit -/

/-- The zeros that a run of digits begins with are flags. -/
theorem isFlag_of_mem_takeWhile_zero {digits : Text} {c : Char}
    (h : c ∈ digits.takeWhile (· == '0')) : isFlag c = true := by
  have hzero : (c == '0') = true := List.all_eq_true.mp List.all_takeWhile c h
  rw [beq_iff_eq.mp hzero]
  rfl

/-- Behind the zeros that a run of digits begins with there is a digit that is no flag. -/
theorem rank_begins_dropWhile_zero {digits : Text} (h : ∀ c ∈ digits, c.isDigit = true) :
    Begins (rank · = 4) (digits.dropWhile (· == '0')) := by
  intro c hc
  have hzero : (c == '0') = false := begins_dropWhile _ digits c hc
  have hdigit : c.isDigit = true :=
    h c ((List.dropWhile_sublist _).subset (List.mem_of_mem_head? hc))
  rw [rank_of_isDigit hdigit, if_neg (by simpa using hzero)]

section

variable {key : Option Text} (hkey : ∀ k ∈ key, Balanced k) {flags : Text}
  (hflags : ∀ c ∈ flags, isFlag c = true) {digits : Text} (hdigits : ∀ c ∈ digits, c.isDigit = true)
  (hlimit : widthLimit < valueOf digits) (rest : Text)
include hdigits hlimit

theorem readNumber_eq_error : readNumber (digits ++ rest) =
    .error (.badSpecifier (.tooManyDigits (digits ++ leadingDigits rest))) := by
  have hleading : leadingDigits (digits ++ rest) = digits ++ leadingDigits rest :=
    List.takeWhile_append_of_pos hdigits
  rw [readNumber, Specifier.readNumber_eq_error _ hdigits hlimit, hleading]

include hkey hflags

/-- A width beyond the limit is refused with all of its digits but the leading zeros, which are
flags. -/
theorem parse_width_eq_error : parse (keyText key ++ (flags ++ (digits ++ rest))) =
    .error (.badSpecifier
      (.tooManyDigits (digits.dropWhile (· == '0') ++ leadingDigits rest))) := by
  have hall : ∀ c ∈ flags ++ digits.takeWhile (· == '0'), isFlag c = true := fun c hc =>
    (List.mem_append.mp hc).elim (hflags c) isFlag_of_mem_takeWhile_zero
  have hdigit : ∀ c ∈ digits.dropWhile (· == '0'), c.isDigit = true := fun c hc =>
    hdigits c ((List.dropWhile_sublist _).subset hc)
  have hvalue : widthLimit < valueOf (digits.dropWhile (· == '0')) := by
    rwa [valueOf_dropWhile_zero]
  have hne : digits.dropWhile (· == '0') ≠ [] := fun hnil =>
    absurd (hnil ▸ hvalue : widthLimit < valueOf []) (by decide)
  have hstop := (rank_begins_dropWhile_zero hdigits).append_of_ne_nil hne rest
  have hflag : Begins (isFlag · = false) (digits.dropWhile (· == '0') ++ rest) :=
    hstop.imp fun c hc => isFlag_of_le_rank (Nat.le_of_eq hc.symm)
  have hopen : Begins (· ≠ '(') (digits.dropWhile (· == '0') ++ rest) := by
    refine hstop.imp ?_
    rintro c hc rfl
    exact absurd hc (by decide)
  have hassoc : flags ++ (digits ++ rest) =
      flags ++ digits.takeWhile (· == '0') ++ (digits.dropWhile (· == '0') ++ rest) := by
    rw [List.append_assoc, ← List.append_assoc (digits.takeWhile _),
      List.takeWhile_append_dropWhile]
  rw [hassoc, parse_keyText_append hkey hall hflag hopen, readNumber_eq_error hdigit hvalue]
  rfl

/-- A precision beyond the limit is refused with all of its digits. -/
theorem parse_precision_eq_error {width : Option Text} (hwidth : ∀ d ∈ width, IsNumber d)
    (hhead : ∀ d ∈ width, d.head? ≠ some '0') :
    parse (keyText key ++ (flags ++ (width.getD [] ++ '.' :: (digits ++ rest)))) =
      .error (.badSpecifier (.tooManyDigits (digits ++ leadingDigits rest))) := by
  have hpoint : From 6 ('.' :: (digits ++ rest)) := begins_cons.mpr (by decide)
  have hfirst : From 4 (width.getD []) := from_digits hwidth false fun _ => hhead
  have hstop : From 4 (width.getD [] ++ '.' :: (digits ++ rest)) :=
    Begins.append hfirst (hpoint.imp fun c hc => Nat.le_trans (by decide) hc)
  have hopen : Begins (· ≠ '(') (width.getD [] ++ '.' :: (digits ++ rest)) := by
    refine Begins.append ?_ (begins_cons.mpr (by decide))
    match width with
    | none => exact begins_nil
    | some run =>
      refine begins_of_forall fun c hc h => ?_
      exact absurd ((hwidth run rfl).isDigit c hc) (by rw [h]; decide)
  have hnumber : readNumber (width.getD [] ++ '.' :: (digits ++ rest)) =
      .ok (width.map valueOf, '.' :: (digits ++ rest)) :=
    Specifier.readNumber_append _ hwidth (hpoint.imp fun c hc =>
      isDigit_of_le_rank (Nat.le_of_succ_le hc))
  rw [parse_keyText_append hkey hflags (hstop.imp fun c => isFlag_of_le_rank) hopen, hnumber]
  show (readPrecision ('.' :: (digits ++ rest)) >>= _) = _
  rw [readPrecision, readNumber_eq_error hdigits hlimit]
  rfl

end

/-- A directive that was written in front of any text is read as its parts: the key, which flags
occur in it, where a plus sign wins over a space, the numbers and the conversion.  The text behind
it is left as it is.  A width or a precision beyond the limit is a fault of the directive, however
many digits it has and whatever follows. -/
theorem parse_written :
    (∀ (p : Parts) (rest : Text), ∃ d : Directive,
      parse (p.before rest) = .ok (d, rest) ∧
      script ('%' :: p.before rest) = .directive d (script rest) ∧
      d.key = p.key ∧ (d.left = true ↔ '-' ∈ p.flags) ∧ (d.zero = true ↔ '0' ∈ p.flags) ∧
      (d.alternate = true ↔ '#' ∈ p.flags) ∧
      d.sign = (if '+' ∈ p.flags then some .plus else if ' ' ∈ p.flags then some .space else none) ∧
      d.width = p.widthValue ∧ d.precision = p.precisionValue ∧ d.conversion = p.conversion) ∧
    ∀ (key : Option Text) (flags digits rest : Text), (∀ k ∈ key, Balanced k) →
      (∀ c ∈ flags, isFlag c = true) → (∀ c ∈ digits, c.isDigit = true) →
      widthLimit < valueOf digits →
      parse (keyText key ++ (flags ++ (digits ++ rest))) =
        .error (.badSpecifier
          (.tooManyDigits (digits.dropWhile (· == '0') ++ leadingDigits rest))) ∧
      ∀ width : Option Text, (∀ d ∈ width, IsNumber d) → (∀ d ∈ width, d.head? ≠ some '0') →
        parse (keyText key ++ (flags ++ (width.getD [] ++ '.' :: (digits ++ rest)))) =
          .error (.badSpecifier (.tooManyDigits (digits ++ leadingDigits rest))) := by
  constructor
  · intro p rest
    refine ⟨_, p.parse_before rest, p.script_before rest, rfl, List.contains_iff_mem,
      List.contains_iff_mem, List.contains_iff_mem, ?_, rfl, rfl, rfl⟩
    simp only [ofParts, signOf, List.contains_iff_mem]
  · intro key flags digits rest hkey hflags hdigits hlimit
    exact ⟨parse_width_eq_error hkey hflags hdigits hlimit rest, fun width hwidth hhead =>
      parse_precision_eq_error hkey hflags hdigits hlimit rest hwidth hhead⟩

theorem balanced_nested : Balanced "a(%)b".toList :=
  .plain (by decide) (by decide)
    (.nested (t := ['%']) (.plain (by decide) (by decide) .nil)
      (.plain (by decide) (by decide) .nil))

/-- A key with parentheses and a percent sign, all flags with some of them twice, a point without
digits and every modifier. -/
def crowded : Parts where
  key := some "a(%)b".toList
  flags := " -0+#0 ".toList
  width := some "12".toList
  point := some none
  modifiers := "hlL".toList
  conversion := 'd'
  key_balanced := by
    rintro k ⟨⟩
    exact balanced_nested
  isFlag_of_mem := List.all_eq_true.mp rfl
  width_isNumber := by
    rintro digits ⟨⟩
    exact ⟨by decide, List.all_eq_true.mp rfl, by decide⟩
  width_head := by
    rintro digits ⟨⟩
    decide
  point_isNumber := by
    rintro run ⟨⟩ digits hdigits
    exact absurd hdigits (Option.not_mem_none _)
  isModifier_of_mem := List.all_eq_true.mp rfl
  conversion_mem := by decide

/-- What follows the crowded directive begins with a letter that is a modifier in front of a
conversion.  The width beyond the limit has two leading zeros, and a digit follows it. -/
theorem parse_written_crowded :
    (∃ d : Directive, parse "(a(%)b) -0+#0 12.hlLdl%5s".toList = .ok (d, "l%5s".toList) ∧
      d.key = some "a(%)b".toList ∧ d.left = true ∧ d.sign = some .plus ∧ d.width = 12 ∧
      d.precision = some 0 ∧ d.conversion = 'd') ∧
    (Balanced "a(%)b".toList ∧ (∀ c ∈ ['-'], isFlag c = true) ∧
      (∀ c ∈ "002147483648".toList, c.isDigit = true) ∧
      widthLimit < valueOf "002147483648".toList) ∧
    parse "(a(%)b)-0021474836487s".toList =
      .error (.badSpecifier (.tooManyDigits "21474836487".toList)) ∧
    parse "(a(%)b)-12.0021474836487s".toList =
      .error (.badSpecifier (.tooManyDigits "0021474836487".toList)) := by
  have hkey : ∀ k ∈ some "a(%)b".toList, Balanced k := crowded.key_balanced
  have hflags : ∀ c ∈ ['-'], isFlag c = true := List.all_eq_true.mp rfl
  have hdigits : ∀ c ∈ "002147483648".toList, c.isDigit = true := List.all_eq_true.mp rfl
  have hlimit : widthLimit < valueOf "002147483648".toList := by decide
  obtain ⟨hwidth, hprecision⟩ := parse_written.2 _ _ _ "7s".toList hkey hflags hdigits hlimit
  refine ⟨?_, ⟨balanced_nested, hflags, hdigits, hlimit⟩, hwidth,
    hprecision crowded.width crowded.width_isNumber crowded.width_head⟩
  obtain ⟨d, hparse, -, hkey, hleft, -, -, hsign, hwidth, hprecision, hconversion⟩ :=
    parse_written.1 crowded "l%5s".toList
  exact ⟨d, hparse, hkey, hleft.mpr (by decide), hsign, hwidth, hprecision, hconversion⟩

end EscapeOnce.Directive
