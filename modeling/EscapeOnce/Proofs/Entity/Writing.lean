import EscapeOnce.Entity.Writing
import EscapeOnce.Proofs.Entity.Code
import EscapeOnce.Proofs.Text.Slice

/-!
# Writing by bytes is escaping by characters

The bytes of a character that is no markup are no markup bytes: either it is a single byte, and then
its own, or every byte of it is beyond the ASCII ones (`ofByte?_of_mem_utf8EncodeChar`).  So the
pass that writes stops at markup characters and nowhere else, and the places that it cuts at are the
ones before and behind such a character.

What the pass has seen is the text written so far and a run without markup behind it, which is not
written yet; the last place that it remembers lies between the two (`writeFrom_utf8`).  From there
it writes the run and the escaped form of the rest.
-/

namespace EscapeOnce.Entity

open Text

/-! ## Bytes -/

/-- A byte beyond the ASCII ones is no markup. -/
theorem ofByte?_eq_none_of_le {b : UInt8} (h : 128 ≤ b.toNat) : ofByte? b = none := by
  refine List.findSome?_eq_none_iff.mpr fun entity hentity => if_neg ?_
  rintro rfl
  simp only [table, List.mem_cons, List.not_mem_nil, or_false] at hentity
  rcases hentity with rfl | rfl | rfl | rfl <;> exact absurd h (by decide)

/-- The byte of a markup character stands for its entity. -/
theorem ofByte?_of_mem_table {entity : Char × Text} (h : entity ∈ table) :
    String.utf8EncodeChar entity.1 = [entity.1.toUInt8] ∧
      ofByte? entity.1.toUInt8 = some entity.2 := by
  simp only [table, List.mem_cons, List.not_mem_nil, or_false] at h
  rcases h with rfl | rfl | rfl | rfl <;> exact ⟨by decide, by decide⟩

/-- Every byte of a character beyond the ASCII ones is beyond them too. -/
theorem le_toNat_of_mem_utf8EncodeChar {c : Char} (hc : 0x7f < c.val.toNat) {b : UInt8}
    (hb : b ∈ String.utf8EncodeChar c) : 128 ≤ b.toNat := by
  have hbyte : ∀ n, 128 ≤ n ∧ n < 256 → 128 ≤ (UInt8.ofNat n).toNat := by
    rintro n ⟨hle, hlt⟩
    rw [UInt8.toNat_ofNat_of_lt' hlt]
    exact hle
  simp only [String.utf8EncodeChar, if_neg (Nat.not_le_of_gt hc)] at hb
  split at hb
  · simp only [List.mem_cons, List.not_mem_nil, or_false] at hb
    rcases hb with rfl | rfl <;> exact hbyte _ (by omega)
  · split at hb
    · simp only [List.mem_cons, List.not_mem_nil, or_false] at hb
      rcases hb with rfl | rfl | rfl <;> exact hbyte _ (by omega)
    · simp only [List.mem_cons, List.not_mem_nil, or_false] at hb
      rcases hb with rfl | rfl | rfl | rfl <;> exact hbyte _ (by omega)

/-- The one byte of an ASCII character that is no markup is no markup byte. -/
theorem ofByte?_toUInt8_of_unmarked {c : Char} (hc : Unmarked [c]) (hle : c.val.toNat ≤ 0x7f) :
    ofByte? c.toUInt8 = none := by
  have hbyte : ∀ d : Char, d.val.toNat ≤ 0x7f → d.toUInt8.toNat = d.val.toNat := by
    intro d hd
    rw [Char.toUInt8, UInt32.toNat_toUInt8]
    exact Nat.mod_eq_of_lt (by omega)
  refine List.findSome?_eq_none_iff.mpr fun entity hentity => if_neg fun heq => ?_
  have hsame : entity.1.val.toNat ≤ 0x7f → entity.1 = c := by
    intro hd
    refine Char.ext (UInt32.toNat_inj.mp ?_)
    rw [← hbyte _ hd, heq, hbyte c hle]
  simp only [table, List.mem_cons, List.not_mem_nil, or_false] at hentity
  rcases hentity with rfl | rfl | rfl | rfl <;>
    exact absurd hc (hsame (by decide) ▸ by decide)

/-- No byte of a character that is no markup is the byte of one. -/
theorem ofByte?_of_mem_utf8EncodeChar {c : Char} (hc : Unmarked [c]) {b : UInt8}
    (hb : b ∈ String.utf8EncodeChar c) : ofByte? b = none := by
  by_cases hle : c.val.toNat ≤ 0x7f
  · have hone : c.utf8Size = 1 := Char.utf8Size_eq_one_iff.mpr (UInt32.le_iff_toNat_le.mpr hle)
    rw [String.utf8EncodeChar_eq_singleton hone] at hb
    rw [List.mem_singleton.mp hb]
    exact ofByte?_toUInt8_of_unmarked hc hle
  · exact ofByte?_eq_none_of_le (le_toNat_of_mem_utf8EncodeChar (Nat.lt_of_not_le hle) hb)

/-! ## The first pass -/

/-- Counting markup bytes counts markup characters. -/
theorem byteGrowth_eq_growth (t : Text) : byteGrowth t = growth t := by
  induction t with
  | nil => rfl
  | cons c t ih =>
    have hcons : byteGrowth (c :: t) =
        ((String.utf8EncodeChar c).filterMap ofByte?).foldr
          (fun entity n => entity.utf8Size - 1 + n) (byteGrowth t) := by
      rw [byteGrowth, utf8_cons, List.filterMap_append, List.foldr_append]
      rfl
    rw [hcons, ih, growth]
    rcases mem_table_or_unmarked c with ⟨entity, hmem, rfl⟩ | hc
    · obtain ⟨hencode, hbyte⟩ := ofByte?_of_mem_table hmem
      have hone : entity.1.utf8Size = 1 := by
        rw [← String.length_utf8EncodeChar, hencode, List.length_singleton]
      rw [hencode, List.filterMap_cons_some hbyte, escapeChar_of_mem_table hmem, hone]
      rfl
    · rw [List.filterMap_eq_nil_iff.mpr fun b hb => ofByte?_of_mem_utf8EncodeChar hc hb,
        escapeChar_of_unmarked hc, utf8Size_cons, utf8Size_nil]
      simp

/-- The escaped form of a character is no shorter than the character. -/
theorem utf8Size_le_utf8Size_escapeChar (c : Char) : c.utf8Size ≤ (escapeChar c).utf8Size := by
  rcases mem_table_or_unmarked c with ⟨entity, hmem, rfl⟩ | hc
  · rw [escapeChar_of_mem_table hmem]
    simp only [table, List.mem_cons, List.not_mem_nil, or_false] at hmem
    rcases hmem with rfl | rfl | rfl | rfl <;> decide
  · rw [escapeChar_of_unmarked hc]
    exact Nat.le_refl _

/-- An escaped form is longer by its growth. -/
theorem utf8Size_escape (t : Text) : (escape t).utf8Size = t.utf8Size + growth t := by
  induction t with
  | nil => rfl
  | cons c t ih =>
    have hle := utf8Size_le_utf8Size_escapeChar c
    rw [escape_cons, utf8Size_append, ih, utf8Size_cons, growth]
    omega

/-- A text that would not grow has no markup. -/
theorem unmarked_of_growth_eq_zero {t : Text} (h : growth t = 0) : Unmarked t := by
  induction t with
  | nil => exact unmarked_nil
  | cons c t ih =>
    rw [growth, Nat.add_eq_zero_iff] at h
    refine unmarked_cons.mpr ⟨?_, ih h.2⟩
    rcases mem_table_or_unmarked c with ⟨entity, hmem, rfl⟩ | hc
    · -- every entity is longer than the character that it stands for
      have hzero := h.1
      rw [escapeChar_of_mem_table hmem] at hzero
      simp only [table, List.mem_cons, List.not_mem_nil, or_false] at hmem
      rcases hmem with rfl | rfl | rfl | rfl <;> exact absurd hzero (by decide)
    · exact hc

/-! ## The second pass -/

/-- Bytes that are no markup only move the place on. -/
theorem writeFrom_append {t : Text} {bytes : List UInt8} (h : ∀ b ∈ bytes, ofByte? b = none)
    (rest : List UInt8) (i last : Nat) (dest : Text) :
    writeFrom t (bytes ++ rest) i last dest =
      writeFrom t rest (i + bytes.length) last dest := by
  induction bytes generalizing i with
  | nil => rfl
  | cons b bytes ih =>
    obtain ⟨hb, hbytes⟩ := List.forall_mem_cons.mp h
    rw [List.cons_append, writeFrom, hb]
    show writeFrom t (bytes ++ rest) (i + 1) last dest = _
    rw [ih hbytes, List.length_cons, Nat.add_right_comm, Nat.add_assoc]

/-- Behind the text that has been written and a run without markup, the pass writes the run and the
escaped form of what is left. -/
theorem writeFrom_utf8 (done run rest dest : Text) (hrun : Unmarked run) :
    writeFrom (done ++ run ++ rest) rest.utf8 (done ++ run).utf8Size done.utf8Size dest =
      some (dest ++ run ++ escape rest) := by
  induction rest generalizing done run dest with
  | nil =>
    show (dropBytes? done.utf8Size _).map _ = _
    rw [List.append_nil, dropBytes?_append, Option.map_some]
    exact congrArg some (List.append_nil _).symm
  | cons c rest ih =>
    rw [utf8_cons, escape_cons]
    rcases mem_table_or_unmarked c with ⟨entity, hmem, rfl⟩ | hc
    · obtain ⟨hencode, hbyte⟩ := ofByte?_of_mem_table hmem
      have hplace : (done ++ run).utf8Size + 1 = (done ++ run ++ [entity.1]).utf8Size := by
        rw [utf8Size_append (done ++ run), utf8Size_cons, ← String.length_utf8EncodeChar, hencode]
        rfl
      -- the run and the entity are written, and the place behind them is the new one
      have hnext := ih (done ++ run ++ [entity.1]) [] (dest ++ run ++ entity.2) unmarked_nil
      rw [List.append_nil, List.append_assoc (done ++ run), List.singleton_append] at hnext
      rw [hencode, List.singleton_append, writeFrom, hbyte]
      show (slice? _ _ _ >>= _) = _
      rw [slice?_append_append]
      show writeFrom _ _ _ _ _ = _
      rw [hplace, hnext, List.append_nil, escapeChar_of_mem_table hmem, List.append_assoc]
    · have hplace : (done ++ run).utf8Size + (String.utf8EncodeChar c).length =
          (done ++ (run ++ [c])).utf8Size := by
        rw [String.length_utf8EncodeChar, ← List.append_assoc, utf8Size_append (done ++ run)]
        rfl
      -- the character becomes part of the run
      have hnext := ih done (run ++ [c]) dest (unmarked_append.mpr ⟨hrun, hc⟩)
      rw [← List.append_assoc, List.append_assoc (done ++ run), List.singleton_append] at hnext
      rw [writeFrom_append fun b hb => ofByte?_of_mem_utf8EncodeChar hc hb, hplace,
        ← List.append_assoc, hnext, escapeChar_of_unmarked hc, ← List.append_assoc dest,
        List.append_assoc (dest ++ run)]

/-- Writing by bytes puts the escaped form behind what is there. -/
theorem escapeInto?_eq_some (dest t : Text) : escapeInto? dest t = some (dest ++ escape t) := by
  have h := writeFrom_utf8 [] [] t dest unmarked_nil
  rw [List.append_nil dest] at h
  exact h

/-- The two passes give the escaped form, also where the first finds nothing to do. -/
theorem escapeBytes?_eq_some (t : Text) : escapeBytes? t = some (escape t) := by
  rw [escapeBytes?, byteGrowth_eq_growth]
  by_cases hzero : growth t = 0
  · rw [if_pos hzero, escape_eq_self (unmarked_of_growth_eq_zero hzero)]
  · rw [if_neg hzero]
    exact escapeInto?_eq_some [] t

end EscapeOnce.Entity
