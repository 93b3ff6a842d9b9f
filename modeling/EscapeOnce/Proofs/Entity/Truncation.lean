import EscapeOnce.Entity.Truncation
import EscapeOnce.Proofs.Entity.Seams
import EscapeOnce.Proofs.Text.Slice

/-!
# Cutting by bytes is cutting by visible characters

To look ahead to the next semicolon and then at what stands before it, or to read a name and then
look for the semicolon, finds the same references: no name holds a semicolon
(`referenceSize?_ampersand`).  A name is of single bytes, so a step is as long as the visible
character that it passes over (`exists_step`).

The place of the pass is therefore always between two visible characters.  What it has passed is the
beginning of the text with as many visible characters as it has counted, and from there it does to
the rest what it would do to the rest alone (`truncateFrom_append`).
-/

namespace EscapeOnce.Visible

open Text

theorem utf8Size_of_isNameChar {c : Char} (h : isNameChar c = true) : c.utf8Size = 1 := by
  rw [Char.utf8Size_eq_one_iff]
  rcases (Bool.or_eq_true _ _).mp h with halnum | hsign
  · rcases (Bool.or_eq_true _ _).mp halnum with halpha | hdigit
    · rcases (Bool.or_eq_true _ _).mp halpha with hupper | hlower
      · exact UInt32.le_trans (of_decide_eq_true hupper).2 (by decide)
      · exact UInt32.le_trans (of_decide_eq_true ((Bool.and_eq_true _ _).mp hlower).2) (by decide)
    · exact UInt32.le_trans (of_decide_eq_true ((Bool.and_eq_true _ _).mp hdigit).2) (by decide)
  · rw [beq_iff_eq.mp hsign]
    decide

theorem utf8Size_name {name : Text} (h : ∀ c ∈ name, isNameChar c = true) :
    name.utf8Size = name.length := by
  induction name with
  | nil => rfl
  | cons c name ih =>
    obtain ⟨hc, hname⟩ := List.forall_mem_cons.mp h
    rw [utf8Size_cons, utf8Size_of_isNameChar hc, ih hname, List.length_cons, Nat.add_comm]

/-- Looking ahead finds the reference that is read by its name. -/
theorem referenceSize?_ampersand (t : Text) :
    referenceSize? ('&' :: t) = (reference? t).map fun reading => utf8Size ('&' :: reading.1) := by
  have hsize : ∀ word : Text, utf8Size ('&' :: (word ++ [';'])) = word.utf8Size + 2 := by
    intro word
    rw [utf8Size_cons, utf8Size_append, utf8Size_cons, utf8Size_nil]
    have hsingle : ('&' : Char).utf8Size = 1 ∧ (';' : Char).utf8Size = 1 := by decide
    omega
  cases hread : reference? t with
  | some reading =>
    obtain ⟨name, rest⟩ := reading
    obtain ⟨word, hne, hlength, hword, rfl, rfl⟩ := reference?_eq_some_iff.mp hread
    have hsemicolon : ';' ∉ word := fun hmem => absurd (hword ';' hmem) (by decide)
    rw [referenceSize?, cutAt?_append_cons hsemicolon]
    simpa [hne, utf8Size_name hword, hlength, hsize] using hword
  | none =>
    rw [Option.map_none, referenceSize?, Option.bind_eq_none_iff]
    rintro ⟨word, rest⟩ hcut
    refine if_neg fun hname => ?_
    simp only [Bool.and_eq_true, Bool.not_eq_true', List.isEmpty_eq_false_iff, decide_eq_true_eq,
      List.all_eq_true] at hname
    obtain ⟨⟨hne, hlength⟩, hword⟩ := hname
    rw [utf8Size_name hword] at hlength
    have hfound := reference?_eq_some_iff.mpr
      ⟨word, hne, hlength, hword, rfl, eq_append_of_cutAt?_eq_some hcut⟩
    cases hread.symm.trans hfound

/-- A step passes over the first visible character. -/
theorem exists_step {t : Text} (ht : t ≠ []) :
    ∃ first rest, t = first ++ rest ∧ first ≠ [] ∧ tokens t = first :: tokens rest ∧
      stepSize t = first.utf8Size := by
  match t, ht with
  | c :: t, _ =>
    rw [stepSize]
    by_cases hc : c = '&'
    · subst hc
      rw [if_pos rfl, referenceSize?_ampersand]
      cases hread : reference? t with
      | some reading =>
        obtain ⟨name, rest⟩ := reading
        refine ⟨'&' :: name, rest, ?_, List.cons_ne_nil _ _,
          tokens_of_reference?_eq_some hread, rfl⟩
        rw [List.cons_append, append_of_reference?_eq_some hread]
      | none => exact ⟨['&'], t, rfl, List.cons_ne_nil _ _, tokens_of_reference?_eq_none hread, rfl⟩
    · rw [if_neg hc]
      exact ⟨[c], t, rfl, List.cons_ne_nil _ _, tokens_cons_of_ne hc t, rfl⟩

/-! ## The pass -/

section

variable (done : Text) {rest : Text} {limit count : Nat}

theorem truncateFrom_nil : truncateFrom done limit done.utf8Size count = some (done, count) := by
  rw [truncateFrom, if_neg (Nat.lt_irrefl _)]

variable (hrest : rest ≠ [])
include hrest

/-- The pass has not come to the end of a text while there is something left. -/
theorem utf8Size_lt_utf8Size_append : done.utf8Size < (done ++ rest).utf8Size := by
  have hle := length_le_utf8Size rest
  have hpos := List.length_pos_iff.mpr hrest
  rw [utf8Size_append]
  omega

/-- The pass stops where as many visible characters are behind it as there may be. -/
theorem truncateFrom_limit :
    truncateFrom (done ++ rest) limit done.utf8Size limit = some (done, limit) := by
  rw [truncateFrom, if_pos (utf8Size_lt_utf8Size_append done hrest), if_pos rfl, takeBytes?_append]
  rfl

/-- Otherwise it goes on behind its step. -/
theorem truncateFrom_step (hcount : count ≠ limit) :
    truncateFrom (done ++ rest) limit done.utf8Size count =
      truncateFrom (done ++ rest) limit (done.utf8Size + stepSize rest) (count + 1) := by
  rw [truncateFrom, if_pos (utf8Size_lt_utf8Size_append done hrest), if_neg hcount,
    dropBytes?_append]

end

/-- Behind a beginning of the text the pass does to the rest what it does to the rest alone. -/
theorem truncateFrom_append (done rest : Text) {limit count : Nat} (hcount : count ≤ limit) :
    truncateFrom (done ++ rest) limit done.utf8Size count =
      some (done ++ take (limit - count) rest, count + min (limit - count) (length rest)) := by
  induction hsize : rest.length using Nat.strongRecOn generalizing done rest count with
  | ind size ih =>
    by_cases hrest : rest = []
    · subst hrest
      rw [List.append_nil, truncateFrom_nil, take, length, tokens_nil, List.take_nil,
        List.length_nil, Nat.min_zero]
      exact congrArg (fun kept => some (kept, count)) (List.append_nil done).symm
    · by_cases hlimit : count = limit
      · subst hlimit
        rw [truncateFrom_limit done hrest, Nat.sub_self, Nat.zero_min]
        exact congrArg (fun kept => some (kept, count)) (List.append_nil done).symm
      · -- the step adds the first visible character to what is done
        rw [truncateFrom_step done hrest hlimit]
        obtain ⟨first, next, rfl, hfirst, htokens, hstep⟩ := exists_step hrest
        have hshorter : next.length < size := by
          have hpos := List.length_pos_iff.mpr hfirst
          rw [List.length_append] at hsize
          omega
        have hroom : count + 1 ≤ limit := by omega
        have hnext := ih next.length hshorter (done ++ first) next hroom rfl
        rw [utf8Size_append, List.append_assoc] at hnext
        obtain ⟨left, hleft⟩ : ∃ left, limit - count = left + 1 := ⟨limit - count - 1, by omega⟩
        have hleft' : limit - (count + 1) = left := by omega
        have hcounted : count + 1 + min left (length next) =
            count + min (left + 1) (length next + 1) := by omega
        rw [hstep, hnext, hleft', hcounted, hleft, take_succ htokens, length_succ htokens,
          List.append_assoc]

/-- The pass leaves the beginning of the text with as many visible characters as it may have, and
counts them. -/
theorem truncate?_eq_some (limit : Nat) (t : Text) :
    truncate? limit t = some (take limit t, min limit (length t)) := by
  have h := truncateFrom_append [] t (Nat.zero_le limit)
  rw [Nat.sub_zero, Nat.zero_add] at h
  exact h

end EscapeOnce.Visible
