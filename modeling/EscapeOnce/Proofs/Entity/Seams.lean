import EscapeOnce.Proofs.Entity.Tokens
import EscapeOnce.Proofs.Text.Begins

/-!
# Where a text can be cut

Whether an `&` begins a reference is decided by what follows it, up to the next semicolon and no
further (`reference?_eq_some_iff`).  Taking something away from a text, or putting something behind
it, may therefore change how it reads: `&amp` shows as four characters and `&amp;` as one.

A point in a text is a `Seam` if no reference lies across it, so that the text on either side reads
as it reads alone.  There are three kinds:

* the points between visible characters (`seam_take`), which is why a cut never spoils what it
  leaves;
* the points before a text without a semicolon, which completes no reference
  (`seam_of_semicolon_notMem`);
* the points behind a text without an `&`, which begins none (`seam_of_ampersand_notMem`).

The last two are what padding needs.
-/

namespace EscapeOnce.Visible

/-! ## References -/

/-- A reference is a word of one to thirty-two name characters with a semicolon behind it. -/
theorem reference?_eq_some_iff {t name rest : Text} :
    reference? t = some (name, rest) ↔
      ∃ word, word ≠ [] ∧ word.length ≤ 32 ∧ (∀ c ∈ word, isNameChar c = true) ∧
        name = word ++ [';'] ∧ t = word ++ ';' :: rest := by
  constructor
  · intro h
    obtain ⟨hname, hrest⟩ := of_reference?_eq_some h
    refine ⟨t.takeWhile isNameChar, ?_, ?_, List.all_eq_true.mp List.all_takeWhile, hname, ?_⟩
    · intro hempty
      simp [reference?, hrest, hempty] at h
    · by_contra hlong
      simp [reference?, hrest, Nat.not_le.mp hlong] at h
    · rw [← hrest, List.takeWhile_append_dropWhile]
  · rintro ⟨word, hne, hlength, hword, rfl, rfl⟩
    have hstop : Text.Begins (isNameChar · = false) (';' :: rest) :=
      Text.begins_cons.mpr (by decide)
    rw [reference?, Text.takeWhile_append_of_begins hword hstop,
      Text.dropWhile_append_of_begins hword hstop]
    simp [hne, hlength]

/-- What follows a reference does not change it. -/
theorem reference?_append {a name rest : Text} (h : reference? a = some (name, rest)) (b : Text) :
    reference? (a ++ b) = some (name, rest ++ b) := by
  obtain ⟨word, hne, hlength, hword, hname, rfl⟩ := reference?_eq_some_iff.mp h
  refine reference?_eq_some_iff.mpr ⟨word, hne, hlength, hword, hname, ?_⟩
  rw [List.append_assoc, List.cons_append]

/-- A text without a semicolon completes no reference. -/
theorem reference?_append_eq_none {a b : Text} (hb : ';' ∉ b) (h : reference? a = none) :
    reference? (a ++ b) = none := by
  refine Option.eq_none_iff_forall_ne_some.mpr fun ⟨name, rest⟩ hfound => ?_
  obtain ⟨word, hne, hlength, hword, hname, hsplit⟩ := reference?_eq_some_iff.mp hfound
  rcases List.append_eq_append_iff.mp hsplit with ⟨middle, -, hmiddle⟩ | ⟨middle, ha, hmiddle⟩
  · exact hb (hmiddle ▸ by simp)
  · match middle, hmiddle with
    | [], hmiddle =>
      rw [List.nil_append] at hmiddle
      exact hb (hmiddle ▸ List.mem_cons_self)
    | c :: middle, hmiddle =>
      obtain ⟨rfl, -⟩ := List.cons.inj hmiddle
      have hcomplete := reference?_eq_some_iff.mpr ⟨word, hne, hlength, hword, hname, ha⟩
      exact absurd (h.symm.trans hcomplete) (by simp)

/-! ## Seams -/

/-- No reference lies across the point between two texts. -/
def Seam (a b : Text) : Prop := tokens (a ++ b) = tokens a ++ tokens b

theorem Seam.length_append {a b : Text} (h : Seam a b) : length (a ++ b) = length a + length b := by
  rw [length, h, List.length_append, length, length]

theorem seam_of_semicolon_notMem {b : Text} (hb : ';' ∉ b) (a : Text) : Seam a b := by
  unfold Seam
  fun_induction tokens a with
  | case1 => rfl
  | case2 a name rest found ih =>
    rw [List.cons_append, tokens_of_reference?_eq_some (reference?_append found b), ih,
      List.cons_append]
  | case3 a found ih =>
    rw [List.cons_append, tokens_of_reference?_eq_none (reference?_append_eq_none hb found), ih,
      List.cons_append]
  | case4 c a hc ih => rw [List.cons_append, tokens_cons_of_ne hc, ih, List.cons_append]

theorem tokens_of_ampersand_notMem {a : Text} (ha : '&' ∉ a) : tokens a = a.map ([·]) := by
  induction a with
  | nil => exact tokens_nil
  | cons c a ih =>
    obtain ⟨hc, ha⟩ := List.ne_and_not_mem_of_not_mem_cons ha
    rw [tokens_cons_of_ne hc.symm, ih ha, List.map_cons]

theorem seam_of_ampersand_notMem {a : Text} (ha : '&' ∉ a) (b : Text) : Seam a b := by
  unfold Seam
  induction a with
  | nil => rw [tokens_nil, List.nil_append, List.nil_append]
  | cons c a ih =>
    obtain ⟨hc, ha⟩ := List.ne_and_not_mem_of_not_mem_cons ha
    rw [List.cons_append, tokens_cons_of_ne hc.symm, tokens_cons_of_ne hc.symm, ih ha,
      List.cons_append]

theorem length_of_ampersand_notMem {a : Text} (ha : '&' ∉ a) : length a = a.length := by
  rw [length, tokens_of_ampersand_notMem ha, List.length_map]

/-! ## Cuts -/

/-- A text that is not empty has a first visible character, which stays the first one if the text
ends earlier. -/
theorem exists_tokens_append_eq_cons {t : Text} (ht : t ≠ []) :
    ∃ first rest, t = first ++ rest ∧
      ∀ p, p <+: rest → tokens (first ++ p) = first :: tokens p := by
  match t, ht with
  | c :: t, _ =>
    by_cases hc : c = '&'
    · subst hc
      cases found : reference? t with
      | some reading =>
        obtain ⟨name, rest⟩ := reading
        have hname : reference? name = some (name, []) := by
          obtain ⟨word, hne, hlength, hword, rfl, -⟩ := reference?_eq_some_iff.mp found
          exact reference?_eq_some_iff.mpr ⟨word, hne, hlength, hword, rfl, rfl⟩
        refine ⟨'&' :: name, rest, ?_, fun p _ => ?_⟩
        · rw [List.cons_append, append_of_reference?_eq_some found]
        · exact tokens_of_reference?_eq_some (reference?_append hname p)
      | none =>
        refine ⟨['&'], t, rfl, fun p hp => tokens_of_reference?_eq_none ?_⟩
        -- a reference at the beginning of `t` would be one of `t`
        obtain ⟨q, rfl⟩ := hp
        refine Option.eq_none_iff_forall_ne_some.mpr fun ⟨name, rest⟩ hcut => ?_
        cases found.symm.trans (reference?_append hcut q)
    · exact ⟨[c], t, rfl, fun p _ => tokens_cons_of_ne hc p⟩

section

variable {first next : Text} (h : tokens (first ++ next) = first :: tokens next)
include h

/-- A cut that leaves something leaves the first visible character. -/
theorem take_succ (n : Nat) : take (n + 1) (first ++ next) = first ++ take n next := by
  rw [take, h, List.take_succ_cons, List.flatten_cons, take]

theorem length_succ : length (first ++ next) = length next + 1 := by
  rw [length, h, List.length_cons, length]

end

/-- What a cut leaves reads as it did in the whole text. -/
theorem tokens_take (n : Nat) (t : Text) : tokens (take n t) = (tokens t).take n := by
  induction n generalizing t with
  | zero => exact tokens_nil
  | succ n ih =>
    by_cases ht : t = []
    · rw [ht, take, tokens_nil, List.take_nil, List.flatten_nil, tokens_nil]
    · obtain ⟨first, rest, rfl, hfirst⟩ := exists_tokens_append_eq_cons ht
      have htokens := hfirst rest (List.prefix_refl rest)
      rw [take_succ htokens, hfirst _ (take_isPrefix n rest), ih, htokens, List.take_succ_cons]

/-- The text behind a cut. -/
def drop (n : Nat) (t : Text) : Text := ((tokens t).drop n).flatten

theorem take_append_drop (n : Nat) (t : Text) : take n t ++ drop n t = t := by
  rw [take, drop, ← List.flatten_append, List.take_append_drop, flatten_tokens]

/-- What stands behind a cut reads as it did in the whole text. -/
theorem tokens_drop (n : Nat) (t : Text) : tokens (drop n t) = (tokens t).drop n := by
  induction n generalizing t with
  | zero => rw [drop, List.drop_zero, flatten_tokens]
  | succ n ih =>
    by_cases ht : t = []
    · rw [ht, drop, tokens_nil, List.drop_nil, List.flatten_nil, tokens_nil]
    · obtain ⟨first, rest, rfl, hfirst⟩ := exists_tokens_append_eq_cons ht
      have htokens := hfirst rest (List.prefix_refl rest)
      have hdrop : drop (n + 1) (first ++ rest) = drop n rest := by
        rw [drop, htokens, List.drop_succ_cons, drop]
      rw [hdrop, ih, htokens, List.drop_succ_cons]

/-- No reference lies across a cut. -/
theorem seam_take (n : Nat) (t : Text) : Seam (take n t) (drop n t) := by
  rw [Seam, take_append_drop, tokens_take, tokens_drop, List.take_append_drop]

theorem length_take (n : Nat) (t : Text) : length (take n t) = min n (length t) := by
  rw [length, tokens_take, List.length_take, length]

/-- Of two cuts the shorter one counts. -/
theorem take_take (m n : Nat) (t : Text) : take m (take n t) = take (min m n) t := by
  rw [take, tokens_take, List.take_take, take]

end EscapeOnce.Visible
