import EscapeOnce.Proofs.Number.Bases
import EscapeOnce.Text.Quoted

/-!
# Quoted texts and bytes are read back

Between its quotes a text is written one character after the other, and each written form says where
it ends: a backslash announces a letter or a number in braces, and any other character stands for
itself.  A reader that goes from the left therefore gives the characters back, with the text that
follows them still to be read (`unquoteChar?_append`).  Bytes are written in the same manner with
letters of their own (`unquoteByte?_append`).

No form begins with a quote, so the quote that closes a text is the first one that is met where a
form could begin.  That is all that is needed to tell the end of a quoted text from what it holds:
`Quoting` has these two facts, and the forms of a whole list, up to the quote behind it, can be told
apart whatever follows (`Quoting.flatMap_append_inj`).
-/

namespace EscapeOnce.Text

/-- A way to write things between quotes, by which the form of a thing can be told from that of any
other whatever follows, and from the closing quote. -/
structure Quoting {α : Type} (form : α → Text) : Prop where
  append_inj : ∀ {a b : α} {s t : Text}, form a ++ s = form b ++ t → a = b ∧ s = t
  head?_ne : ∀ (a : α) (s : Text), (form a ++ s).head? ≠ some '"'

/-- Forms that a reader reads back, whatever follows, can be told apart. -/
theorem Quoting.of_read {α : Type} {form : α → Text} {read : Text → Option (α × Text)}
    (hread : ∀ a s, read (form a ++ s) = some (a, s))
    (hhead : ∀ a s, (form a ++ s).head? ≠ some '"') :
    Quoting form where
  append_inj {a b s t} h := by
    have hboth := hread a s
    rw [h, hread, Option.some.injEq, Prod.mk.injEq] at hboth
    exact ⟨hboth.1.symm, hboth.2.symm⟩
  head?_ne := hhead

/-- What stands between quotes is known, and so is where it ends. -/
theorem Quoting.flatMap_append_inj {α : Type} {form : α → Text} (h : Quoting form) {as bs : List α}
    {s t : Text} (heq : as.flatMap form ++ '"' :: s = bs.flatMap form ++ '"' :: t) :
    as = bs ∧ s = t := by
  induction as generalizing bs with
  | nil =>
    cases bs with
    | nil => exact ⟨rfl, (List.cons.inj heq).2⟩
    | cons b bs =>
      rw [List.flatMap_cons, List.append_assoc] at heq
      exact absurd (congrArg List.head? heq).symm (h.head?_ne b _)
  | cons a as ih =>
    rw [List.flatMap_cons, List.append_assoc] at heq
    cases bs with
    | nil => exact absurd (congrArg List.head? heq) (h.head?_ne a _)
    | cons b bs =>
      rw [List.flatMap_cons, List.append_assoc] at heq
      obtain ⟨rfl, hrest⟩ := h.append_inj heq
      obtain ⟨rfl, rfl⟩ := ih hrest
      exact ⟨rfl, rfl⟩

/-! ## Characters -/

/-- The character that a letter names behind a backslash. -/
def namedCharacter? (letter : Char) : Option Char :=
  if letter = '0' then some (Char.ofNat 0)
  else if letter = 't' then some '\t'
  else if letter = 'n' then some '\n'
  else if letter = 'r' then some '\r'
  else if letter = '"' then some '"'
  else if letter = '\\' then some '\\'
  else none

/-- Reads one character of a quoted text, and gives the text behind it. -/
def unquoteChar? : Text → Option (Char × Text)
  | '\\' :: 'u' :: '{' :: t => do
    let (digits, rest) ← cutAt? '}' t
    let code ← Numeral.read? 16 digits
    return (Char.ofNat code, rest)
  | '\\' :: letter :: rest => (namedCharacter? letter).map (·, rest)
  | c :: rest => some (c, rest)
  | [] => none

/-- A letter that names a character names no other one, and it is not the one that announces a
number. -/
theorem namedCharacter?_of_quotedLetter? {c letter : Char} (h : quotedLetter? c = some letter) :
    namedCharacter? letter = some c ∧ letter ≠ 'u' := by
  unfold quotedLetter? at h
  repeat' split at h
  all_goals
    cases h <;> subst c <;> decide

/-- A character is quoted by a letter or by its number, or it is written as it is and is neither a
backslash nor a quote. -/
theorem quotedChar_forms (c : Char) :
    (∃ letter, quotedChar c = ['\\', letter] ∧ namedCharacter? letter = some c ∧ letter ≠ 'u') ∨
    quotedChar c = ['\\', 'u', '{'] ++ Nat.toDigits 16 c.toNat ++ ['}'] ∨
    (quotedChar c = [c] ∧ c ≠ '\\' ∧ c ≠ '"') := by
  unfold quotedChar
  cases hletter : quotedLetter? c with
  | some letter =>
    obtain ⟨hnamed, hne⟩ := namedCharacter?_of_quotedLetter? hletter
    exact Or.inl ⟨letter, rfl, hnamed, hne⟩
  | none =>
    have hbackslash : c ≠ '\\' := by
      rintro rfl
      cases hletter
    have hquote : c ≠ '"' := by
      rintro rfl
      cases hletter
    by_cases hnumber : (Unicode.extendsGrapheme c || !Unicode.isPrintable c) = true
    · exact Or.inr (Or.inl (if_pos hnumber))
    · exact Or.inr (Or.inr ⟨if_neg hnumber, hbackslash, hquote⟩)

theorem unquoteChar?_number (n : Nat) (rest : Text) :
    unquoteChar? (['\\', 'u', '{'] ++ Nat.toDigits 16 n ++ ['}'] ++ rest) =
      some (Char.ofNat n, rest) := by
  have hbrace : '}' ∉ Nat.toDigits 16 n := by
    intro h
    obtain ⟨d, hd, hchar⟩ := Numeral.exists_digit_of_mem_toDigits (by decide) h
    have hnone : ∀ d < 16, '}' ≠ Nat.digitChar d := by decide
    exact hnone d hd hchar
  have hread : Numeral.read? 16 (Nat.toDigits 16 n) = some n := by
    have h := Numeral.read?_map_toDigits (f := id) (by decide) Numeral.digitValue?_digitChar n
    rwa [List.map_id] at h
  have hform : ['\\', 'u', '{'] ++ Nat.toDigits 16 n ++ ['}'] ++ rest =
      '\\' :: 'u' :: '{' :: (Nat.toDigits 16 n ++ '}' :: rest) := by
    simp
  rw [hform, unquoteChar?, cutAt?_append_cons hbrace]
  simp [hread]

theorem unquoteChar?_letter {letter : Char} (hletter : letter ≠ 'u') (rest : Text) :
    unquoteChar? ('\\' :: letter :: rest) = (namedCharacter? letter).map (·, rest) := by
  rw [unquoteChar?]
  exact fun _ h _ => hletter h

theorem unquoteChar?_self {c : Char} (hc : c ≠ '\\') (rest : Text) :
    unquoteChar? (c :: rest) = some (c, rest) := by
  rw [unquoteChar?]
  · exact fun _ h _ => hc h
  · exact fun _ _ h _ => hc h

/-- A character is read back, whatever follows it. -/
theorem unquoteChar?_append (c : Char) (rest : Text) :
    unquoteChar? (quotedChar c ++ rest) = some (c, rest) := by
  rcases quotedChar_forms c with ⟨letter, hform, hnamed, hletter⟩ | hform | ⟨hform, hbackslash, -⟩
  · rw [hform]
    show unquoteChar? ('\\' :: letter :: rest) = _
    rw [unquoteChar?_letter hletter, hnamed, Option.map_some]
  · rw [hform, unquoteChar?_number, Char.ofNat_toNat]
  · rw [hform]
    exact unquoteChar?_self hbackslash rest

example : unquoteChar? (quotedChar '\x1b' ++ ['[', '1']) = some ('\x1b', ['[', '1']) := by
  decide +kernel

theorem quoting_quotedChar : Quoting quotedChar := by
  refine Quoting.of_read unquoteChar?_append fun c s => ?_
  rcases quotedChar_forms c with ⟨letter, hform, -⟩ | hform | ⟨hform, -, hquote⟩
  · simp [hform]
  · simp [hform]
  · simpa [hform] using hquote

/-- A quoted text says what it holds and where it ends. -/
theorem quoted_append_inj {t u rest other : Text} (h : t.quoted ++ rest = u.quoted ++ other) :
    t = u ∧ rest = other := by
  simp only [quoted, List.cons_append, List.append_assoc, List.cons.injEq, true_and,
    List.nil_append] at h
  exact quoting_quotedChar.flatMap_append_inj h

/-- So does one that stands between two fixed parts. -/
theorem quoted_between_append_inj {opening closing t u rest other : Text}
    (h : opening ++ t.quoted ++ closing ++ rest = opening ++ u.quoted ++ closing ++ other) :
    t = u ∧ rest = other := by
  simp only [List.append_assoc, List.append_cancel_left_eq] at h
  obtain ⟨rfl, hclosing⟩ := quoted_append_inj h
  exact ⟨rfl, List.append_cancel_left hclosing⟩

/-! ## Bytes -/

/-- The byte that a letter names behind a backslash: the line ends and the tab, or itself. -/
def namedByte (letter : Char) : UInt8 :=
  if letter = 't' then 9
  else if letter = 'n' then 10
  else if letter = 'r' then 13
  else UInt8.ofNat letter.toNat

/-- Reads one byte of quoted bytes, and gives the text behind it. -/
def unquoteByte? : Text → Option (UInt8 × Text)
  | '\\' :: 'x' :: a :: b :: rest => do
    let m ← Numeral.digitValue? a
    let n ← Numeral.digitValue? b
    return (UInt8.ofNat (16 * m + n), rest)
  | '\\' :: letter :: rest => some (namedByte letter, rest)
  | c :: rest => some (UInt8.ofNat c.toNat, rest)
  | [] => none

/-- A byte is quoted by a letter or by two digits, or it is the character that it is written as. -/
theorem quotedByte_forms (b : UInt8) :
    (∃ letter, quotedByte b = ['\\', letter] ∧ namedByte letter = b ∧ letter ≠ 'x') ∨
    quotedByte b = ['\\', 'x', Nat.digitChar (b.toNat / 16), Nat.digitChar (b.toNat % 16)] ∨
    ∃ c, quotedByte b = [c] ∧ UInt8.ofNat c.toNat = b ∧ c ≠ '\\' ∧ c ≠ '"' := by
  by_cases hletter : b = 9 ∨ b = 10 ∨ b = 13 ∨ b = 34 ∨ b = 39 ∨ b = 92
  · refine Or.inl ?_
    rcases hletter with rfl | rfl | rfl | rfl | rfl | rfl
    · exact ⟨'t', rfl, by decide, by decide⟩
    · exact ⟨'n', rfl, by decide, by decide⟩
    · exact ⟨'r', rfl, by decide, by decide⟩
    · exact ⟨'"', rfl, by decide, by decide⟩
    · exact ⟨'\'', rfl, by decide, by decide⟩
    · exact ⟨'\\', rfl, by decide, by decide⟩
  · simp only [not_or] at hletter
    obtain ⟨htab, hline, hreturn, hquote, hsingle, hbackslash⟩ := hletter
    have hquoted : quotedByte b =
        if (32 ≤ b && b ≤ 126) = true then [Char.ofNat b.toNat]
        else ['\\', 'x', Nat.digitChar (b.toNat / 16), Nat.digitChar (b.toNat % 16)] := by
      simp [quotedByte, htab, hline, hreturn, hquote, hsingle, hbackslash]
    by_cases hshown : (32 ≤ b && b ≤ 126) = true
    · have hlt := b.toNat_lt
      have hself : (Char.ofNat b.toNat).toNat = b.toNat := by
        rw [Char.ofNat, dif_pos (Or.inl (by omega))]
        rfl
      have hb : UInt8.ofNat (Char.ofNat b.toNat).toNat = b := by rw [hself, UInt8.ofNat_toNat]
      -- The backslash and the quote have letters.
      refine Or.inr (Or.inr ⟨_, hquoted.trans (if_pos hshown), hb, fun hc => ?_, fun hc => ?_⟩)
      · rw [hc] at hb
        exact hbackslash hb.symm
      · rw [hc] at hb
        exact hquote hb.symm
    · exact Or.inr (Or.inl (hquoted.trans (if_neg hshown)))

theorem unquoteByte?_letter {letter : Char} (hletter : letter ≠ 'x') (rest : Text) :
    unquoteByte? ('\\' :: letter :: rest) = some (namedByte letter, rest) := by
  rw [unquoteByte?]
  exact fun _ _ _ h _ => hletter h

theorem unquoteByte?_self {c : Char} (hc : c ≠ '\\') (rest : Text) :
    unquoteByte? (c :: rest) = some (UInt8.ofNat c.toNat, rest) := by
  rw [unquoteByte?]
  · exact fun _ _ _ h _ => hc h
  · exact fun _ _ h _ => hc h

/-- A byte is read back, whatever follows it. -/
theorem unquoteByte?_append (b : UInt8) (rest : Text) :
    unquoteByte? (quotedByte b ++ rest) = some (b, rest) := by
  rcases quotedByte_forms b with ⟨letter, hform, hnamed, hletter⟩ | hform | ⟨c, hform, hself, hc, -⟩
  · rw [hform]
    show unquoteByte? ('\\' :: letter :: rest) = _
    rw [unquoteByte?_letter hletter, hnamed]
  · have hlt := b.toNat_lt
    rw [hform]
    show unquoteByte? ('\\' :: 'x' :: _ :: _ :: rest) = _
    rw [unquoteByte?, Numeral.digitValue?_digitChar _ (by omega),
      Numeral.digitValue?_digitChar _ (by omega)]
    show some (UInt8.ofNat (16 * (b.toNat / 16) + b.toNat % 16), rest) = _
    rw [Nat.div_add_mod, UInt8.ofNat_toNat]
  · rw [hform, ← hself]
    exact unquoteByte?_self hc rest

theorem quoting_quotedByte : Quoting quotedByte := by
  refine Quoting.of_read unquoteByte?_append fun b s => ?_
  rcases quotedByte_forms b with ⟨letter, hform, -⟩ | hform | ⟨c, hform, -, -, hquote⟩
  · simp [hform]
  · simp [hform]
  · simpa [hform] using hquote

/-- Quoted bytes say what they are and where they end. -/
theorem quotedBytes_append_inj {bytes others : List UInt8} {rest other : Text}
    (h : quotedBytes bytes ++ rest = quotedBytes others ++ other) :
    bytes = others ∧ rest = other := by
  simp only [quotedBytes, List.cons_append, List.append_assoc, List.cons.injEq, true_and,
    List.nil_append] at h
  exact quoting_quotedByte.flatMap_append_inj h

end EscapeOnce.Text
