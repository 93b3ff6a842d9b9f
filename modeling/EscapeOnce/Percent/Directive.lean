import EscapeOnce.Specifier
import EscapeOnce.Template

/-!
# Percent directives

A directive begins with a percent sign and has the form

    %[(key)][flags][width][.precision][modifiers]conversion

where the flags are any of `-`, `+`, the space, `0` and `#` in any order, parentheses may nest in
the key, and length modifiers have no effect.  A doubled percent sign is a literal one.  The
conversion is one character.  Whether it is one that exists is asked only when the directive is
filled in.
-/

namespace EscapeOnce

/-- A percent directive. -/
structure Directive where
  key : Option Text
  /-- Aligned to the left. -/
  left : Bool
  sign : Option Sign
  zero : Bool
  alternate : Bool
  width : Nat
  precision : Option Nat
  conversion : Char
  deriving DecidableEq

namespace Directive

/-- The key up to the parenthesis that closes it, and the text behind; `depth` parentheses are open
besides the first. -/
def cutKey? (depth : Nat) : Text → Option (Text × Text)
  | [] => none
  | c :: t =>
    if c = ')' then
      match depth with
      | 0 => some ([], t)
      | depth + 1 => (cutKey? depth t).map fun (key, rest) => (c :: key, rest)
    else
      (cutKey? (if c = '(' then depth + 1 else depth) t).map fun (key, rest) => (c :: key, rest)

/-- Takes off a key between parentheses. -/
def readKey : Text → Except FormatError (Option Text × Text)
  | '(' :: t =>
    match cutKey? 0 t with
    | some (key, rest) => .ok (some key, rest)
    | none => .error .incomplete
  | t => .ok (none, t)

/-- The character is a flag. -/
def isFlag (c : Char) : Bool := c == '-' || c == '+' || c == ' ' || c == '0' || c == '#'

/-- The sign option of a run of flags: a plus sign wins over a space. -/
def signOf (flags : Text) : Option Sign :=
  if flags.contains '+' then some .plus
  else if flags.contains ' ' then some .space
  else none

/-- Takes off a run of digits as a width or a precision. -/
def readNumber (t : Text) : Except FormatError (Option Nat × Text) :=
  Specifier.readNumber (Numeral.leadingDigits t) t

/-- Takes off a point and a precision; a point alone is a precision of zero. -/
def readPrecision (t : Text) : Except FormatError (Option Nat × Text) :=
  match t with
  | '.' :: rest => do
    let (precision, rest) ← readNumber rest
    return (some (precision.getD 0), rest)
  | _ => .ok (none, t)

/-- The character is a length modifier. -/
def isModifier (c : Char) : Bool := c == 'h' || c == 'l' || c == 'L'

/-- Takes off the conversion. -/
def readConversion : Text → Except FormatError (Char × Text)
  | [] => .error .incomplete
  | '*' :: _ => .error (.badSpecifier .widthFromArgument)
  | c :: t => .ok (c, t)

/-- The directive that consists of these parts. -/
def ofParts (key : Option Text) (flags : Text) (width : Nat) (precision : Option Nat)
    (conversion : Char) : Directive where
  key := key
  left := flags.contains '-'
  sign := signOf flags
  zero := flags.contains '0'
  alternate := flags.contains '#'
  width := width
  precision := precision
  conversion := conversion

/-- Reads the directive behind a percent sign, and gives the text behind it. -/
def parse (t : Text) : Except FormatError (Directive × Text) := do
  let (key, t) ← readKey t
  let flags := t.takeWhile isFlag
  let (width, t) ← readNumber (t.dropWhile isFlag)
  let (precision, t) ← readPrecision t
  let (conversion, t) ← readConversion (t.dropWhile isModifier)
  return (ofParts key flags (width.getD 0) precision conversion, t)

/-! ## What follows a directive is an end of what it was read from -/

/-- The text behind a key is an end of the text with it. -/
theorem suffix_of_cutKey?_eq_some {depth : Nat} {t key rest : Text}
    (h : cutKey? depth t = some (key, rest)) : rest <:+ t := by
  induction t generalizing depth key with
  | nil => exact absurd h (by simp [cutKey?])
  | cons c t ih =>
    have step : ∀ {depth : Nat},
        (cutKey? depth t).map (fun cut => (c :: cut.1, cut.2)) = some (key, rest) →
          rest <:+ c :: t := by
      intro depth h
      obtain ⟨cut, hcut, heq⟩ := Option.map_eq_some_iff.mp h
      obtain ⟨rfl, rfl⟩ := Prod.mk.inj heq
      exact (ih hcut).trans (List.suffix_cons c t)
    unfold cutKey? at h
    split at h
    · split at h
      · simp only [Option.some.injEq, Prod.mk.injEq] at h
        rw [← h.2]
        exact List.suffix_cons c t
      · exact step h
    · exact step h

/-- Reading a key leaves an end of the text. -/
theorem suffix_of_readKey_eq_ok {t rest : Text} {key : Option Text}
    (h : readKey t = .ok (key, rest)) : rest <:+ t := by
  unfold readKey at h
  split at h
  case h_1 u =>
    match hcut : cutKey? 0 u with
    | none => exact absurd h (by simp [hcut])
    | some (key, behind) =>
      rw [hcut] at h
      cases h
      exact (suffix_of_cutKey?_eq_some hcut).trans (List.suffix_cons ..)
  case h_2 =>
    cases h
    exact List.suffix_rfl

/-- Reading a number leaves an end of the text. -/
theorem suffix_of_readNumber_eq_ok {t rest : Text} {number : Option Nat}
    (h : readNumber t = .ok (number, rest)) : rest <:+ t := by
  simp only [readNumber, Specifier.readNumber] at h
  split at h
  · cases h
    exact List.suffix_rfl
  · split at h
    · exact absurd h (by simp)
    · cases h
      exact List.dropWhile_suffix _

/-- Reading a precision leaves an end of the text. -/
theorem suffix_of_readPrecision_eq_ok {t rest : Text} {precision : Option Nat}
    (h : readPrecision t = .ok (precision, rest)) : rest <:+ t := by
  unfold readPrecision at h
  split at h
  case h_1 u =>
    match hu : readNumber u with
    | .error e => exact absurd h (by simp [hu, bind, Except.bind])
    | .ok (number, r) =>
      simp only [hu, bind, Except.bind, pure, Except.pure, Except.ok.injEq, Prod.mk.injEq] at h
      rw [← h.2]
      exact (suffix_of_readNumber_eq_ok hu).trans (List.suffix_cons ..)
  case h_2 =>
    cases h
    exact List.suffix_rfl

/-- A conversion is the first character of the text. -/
theorem cons_of_readConversion_eq_ok {t rest : Text} {c : Char}
    (h : readConversion t = .ok (c, rest)) : c :: rest = t := by
  unfold readConversion at h
  split at h
  · exact absurd h (by simp)
  · exact absurd h (by simp)
  · simp only [Except.ok.injEq, Prod.mk.injEq] at h
    rw [h.1, h.2]

/-- The conversion of a directive and what follows it are an end of the text that the directive was
read from. -/
theorem cons_suffix_of_parse_eq_ok {t rest : Text} {d : Directive}
    (h : parse t = .ok (d, rest)) : d.conversion :: rest <:+ t := by
  simp only [parse, bind, Except.bind] at h
  match hkey : readKey t with
  | .error e => exact absurd h (by simp [hkey])
  | .ok (key, keyed) =>
    simp only [hkey] at h
    match hwidth : readNumber (keyed.dropWhile isFlag) with
    | .error e => exact absurd h (by simp [hwidth])
    | .ok (width, sized) =>
      simp only [hwidth] at h
      match hprecision : readPrecision sized with
      | .error e => exact absurd h (by simp [hprecision])
      | .ok (precision, refined) =>
        simp only [hprecision] at h
        match hconversion : readConversion (refined.dropWhile isModifier) with
        | .error e => exact absurd h (by simp [hconversion])
        | .ok (conversion, behind) =>
          simp only [hconversion, pure, Except.pure, Except.ok.injEq, Prod.mk.injEq] at h
          rw [← h.1, ← h.2]
          have hleft : conversion :: behind <:+ refined :=
            cons_of_readConversion_eq_ok hconversion ▸ List.dropWhile_suffix isModifier
          have hcut := hleft.trans (suffix_of_readPrecision_eq_ok hprecision)
          have hsized := hcut.trans (suffix_of_readNumber_eq_ok hwidth)
          exact (hsized.trans (List.dropWhile_suffix isFlag)).trans (suffix_of_readKey_eq_ok hkey)

/-- What follows a directive is shorter than the text that the directive was read from. -/
theorem length_lt_of_parse_eq_ok {t rest : Text} {d : Directive}
    (h : parse t = .ok (d, rest)) : rest.length < t.length :=
  (cons_suffix_of_parse_eq_ok h).length_le

/-! ## Templates -/

/-- Reads a template of directives. -/
def script : Text → Script Directive
  | [] => .done
  | '%' :: '%' :: t => .literal '%' (script t)
  | '%' :: t =>
    match _found : parse t with
    | .error e => .fault e
    | .ok (d, rest) => .directive d (script rest)
  | c :: t => .literal c (script t)
termination_by t => t.length
decreasing_by
  · simp only [List.length_cons]; omega
  · have := length_lt_of_parse_eq_ok _found
    simp only [List.length_cons]
    omega
  · simp only [List.length_cons]; omega

end Directive

end EscapeOnce
