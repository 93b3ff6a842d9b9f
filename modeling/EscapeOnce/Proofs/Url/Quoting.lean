import EscapeOnce.Proofs.Entity.Code
import EscapeOnce.Proofs.Number.Bases
import EscapeOnce.Url

/-!
# Quoted texts of a URL

A quoted text has no character in it but the unreserved ones and the percent sign (`Quoted`,
`quoted_quoteText`).  All the separators of a URL and all the markup characters are among the
others, so a quoted text can stand between any of them.

A percent sign is never left as it is, so each one in a quoted text begins the two digits of a byte,
and a reader that goes from the left finds the bytes one by one (`unquote_quoteText`).
-/

namespace EscapeOnce.Url

open Entity

/-! ## What a quoted text is made of -/

/-- The character is an ASCII letter or digit, or one of `_ . - ~ /`. -/
def IsUnreserved (c : Char) : Prop := c.isAlphanum = true ∨ c ∈ ['_', '.', '-', '~', '/']

instance : DecidablePred IsUnreserved := fun c =>
  inferInstanceAs (Decidable (c.isAlphanum = true ∨ c ∈ ['_', '.', '-', '~', '/']))

/-- The hexadecimal digits with capital letters. -/
def capitalDigits : Text := "0123456789ABCDEF".toList

/-- Unreserved characters, and bytes written as a percent sign and two hexadecimal digits. -/
inductive Quoted : Text → Prop where
  | nil : Quoted []
  | unreserved {c : Char} {t : Text} (hc : IsUnreserved c) (ht : Quoted t) : Quoted (c :: t)
  | byte {a b : Char} {t : Text} (ha : a ∈ capitalDigits) (hb : b ∈ capitalDigits) (ht : Quoted t) :
      Quoted ('%' :: a :: b :: t)

theorem isUnreserved_of_mem_capitalDigits {c : Char} (h : c ∈ capitalDigits) : IsUnreserved c := by
  have hall : capitalDigits.all fun d => IsUnreserved d := by decide
  exact of_decide_eq_true (List.all_eq_true.mp hall c h)

/-- A reserved character does not stand in a quoted text, unless it is the percent sign. -/
theorem Quoted.not_mem {t : Text} (h : Quoted t) {c : Char} (hc : ¬ IsUnreserved c)
    (hpercent : c ≠ '%') : c ∉ t := by
  have hne : ∀ {d : Char}, IsUnreserved d → c ≠ d := fun hd heq => hc (heq ▸ hd)
  induction h with
  | nil => exact List.not_mem_nil
  | unreserved hd _ ih => exact List.not_mem_cons_of_ne_of_not_mem (hne hd) ih
  | byte ha hb _ ih =>
    have hdigit : ∀ {d : Char}, d ∈ capitalDigits → c ≠ d := fun hd =>
      hne (isUnreserved_of_mem_capitalDigits hd)
    exact List.not_mem_cons_of_ne_of_not_mem hpercent
      (List.not_mem_cons_of_ne_of_not_mem (hdigit ha)
        (List.not_mem_cons_of_ne_of_not_mem (hdigit hb) ih))

theorem Quoted.unmarked {t : Text} (h : Quoted t) : Unmarked t := by
  rintro c hc
  refine ⟨?_, ?_, ?_, ?_⟩ <;> rintro rfl <;> exact h.not_mem (by decide) (by decide) hc

/-! ## Bytes -/

/-- A byte is written as the unreserved character that it is the form of, or with two digits. -/
theorem quoteByte_cases (b : UInt8) :
    (∃ c, quoteByte b = [c] ∧ IsUnreserved c ∧ String.utf8EncodeChar c = [b]) ∨
    ∃ m n, quoteByte b = ['%', hexDigit m, hexDigit n] ∧ m < 16 ∧ n < 16 ∧
      b = UInt8.ofNat (16 * m + n) := by
  have hlt := b.toNat_lt
  by_cases hb : isUnreserved b
  · have hself : ∀ n < 256, isUnreserved (UInt8.ofNat n) = true →
        IsUnreserved (Char.ofNat n) ∧ String.utf8EncodeChar (Char.ofNat n) = [UInt8.ofNat n] := by
      decide +kernel
    obtain ⟨hchar, hform⟩ := hself b.toNat hlt (by rwa [UInt8.ofNat_toNat])
    rw [UInt8.ofNat_toNat] at hform
    exact Or.inl ⟨_, if_pos hb, hchar, hform⟩
  · refine Or.inr ⟨b.toNat / 16, b.toNat % 16, if_neg hb, by omega, by omega, ?_⟩
    rw [Nat.div_add_mod, UInt8.ofNat_toNat]

theorem hexDigit_mem_capitalDigits : ∀ n < 16, hexDigit n ∈ capitalDigits := by decide

theorem quoted_quoteText (t : Text) : Quoted (quoteText t) := by
  rw [quoteText]
  induction t.utf8 with
  | nil => exact .nil
  | cons b bytes ih =>
    rw [List.flatMap_cons]
    rcases quoteByte_cases b with ⟨c, hquoted, hc, -⟩ | ⟨m, n, hquoted, hm, hn, -⟩
    · rw [hquoted]
      exact .unreserved hc ih
    · rw [hquoted]
      exact .byte (hexDigit_mem_capitalDigits m hm) (hexDigit_mem_capitalDigits n hn) ih

/-! ## Reading -/

/-- The bytes that a quoted text stands for: a percent sign and two hexadecimal digits are a byte,
and any other character is the bytes of its form. -/
def unquote : Text → List UInt8
  | '%' :: a :: b :: t =>
    match Numeral.digitValue? a, Numeral.digitValue? b with
    | some m, some n => UInt8.ofNat (16 * m + n) :: unquote t
    | _, _ => String.utf8EncodeChar '%' ++ unquote (a :: b :: t)
  | c :: t => String.utf8EncodeChar c ++ unquote t
  | [] => []

theorem unquote_cons_of_ne {c : Char} (hc : c ≠ '%') (t : Text) :
    unquote (c :: t) = String.utf8EncodeChar c ++ unquote t := by
  rw [unquote]
  exact fun _ _ _ h => absurd h hc

/-- The reader reads one byte off a text. -/
theorem unquote_quoteByte_append (b : UInt8) (t : Text) :
    unquote (quoteByte b ++ t) = b :: unquote t := by
  rcases quoteByte_cases b with ⟨c, hquoted, hc, hform⟩ | ⟨m, n, hquoted, hm, hn, rfl⟩
  · have hne : c ≠ '%' := by
      rintro rfl
      exact absurd hc (by decide)
    rw [hquoted, List.singleton_append, unquote_cons_of_ne hne, hform, List.singleton_append]
  · rw [hquoted]
    show unquote ('%' :: hexDigit m :: hexDigit n :: t) = _
    rw [unquote, hexDigit, hexDigit, Numeral.digitValue?_toUpper_digitChar m hm,
      Numeral.digitValue?_toUpper_digitChar n hn]

/-- The bytes of a text are read back from its quoted form. -/
theorem unquote_quoteText (t : Text) : unquote (quoteText t) = t.utf8 := by
  rw [quoteText]
  induction t.utf8 with
  | nil => rfl
  | cons b bytes ih => rw [List.flatMap_cons, unquote_quoteByte_append, ih]

end EscapeOnce.Url
