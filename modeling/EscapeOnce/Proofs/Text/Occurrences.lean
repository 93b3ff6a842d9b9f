import EscapeOnce.Text.Replace
import Mathlib.Data.List.Infix

/-!
# The pieces between occurrences

A replacement takes the occurrences of a pattern from the left, each behind the one before, until
none is left or the limit is reached.  What it keeps of the text are the pieces between them.
`Pieces` says what these are without searching for anything: a piece ends at an occurrence before
which no other one begins.

A text has exactly one list of pieces (`exists_pieces`, `Pieces.unique`), and a replacement writes
the new text between them (`Pieces.replace_eq`).  Everything that is said about a replacement can
therefore be said about the places where the pattern occurs.

The empty pattern is left out.  It occurs in front of every character, so taking out its first
occurrence leaves the text as it was.
-/

namespace EscapeOnce.Text

variable {old new t u : Text} {limit : Option Nat}

/-- What is left of a text between the occurrences of a pattern that a replacement takes. -/
inductive Pieces (old : Text) : Option Nat → Text → List Text → Prop
  /-- No more occurrences may be taken. -/
  | exhausted (t : Text) : Pieces old (some 0) t [t]
  /-- There are no more occurrences. -/
  | absent (limit : Option Nat) {t : Text} (h : ¬ old <:+: t) : Pieces old limit t [t]
  /-- The first occurrence stands behind `before`, and none begins earlier. -/
  | occurrence {limit : Option Nat} {before after : Text} {pieces : List Text}
      (hlimit : limit ≠ some 0)
      (first : ∀ a b, before ++ (old ++ after) = a ++ (old ++ b) → before <+: a)
      (rest : Pieces old (limit.map (· - 1)) after pieces) :
      Pieces old limit (before ++ (old ++ after)) (before :: pieces)

/-! ## A text has one list of pieces -/

/-- Of the occurrences in a text one begins first. -/
theorem exists_first_occurrence (h : old <:+: t) :
    ∃ before after, t = before ++ (old ++ after) ∧
      ∀ a b, t = a ++ (old ++ b) → before <+: a := by
  induction t with
  | nil =>
    obtain rfl := List.eq_nil_of_infix_nil h
    exact ⟨[], [], rfl, fun a _ _ => List.nil_prefix⟩
  | cons c t ih =>
    by_cases hhead : old <+: c :: t
    · obtain ⟨after, hafter⟩ := hhead
      exact ⟨[], after, hafter.symm, fun a _ _ => List.nil_prefix⟩
    · obtain ⟨before, after, rfl, hfirst⟩ := ih ((List.infix_cons_iff.mp h).resolve_left hhead)
      refine ⟨c :: before, after, rfl, fun a b hab => ?_⟩
      cases a with
      | nil => exact absurd ⟨b, hab.symm⟩ hhead
      | cons d a =>
        obtain ⟨rfl, htail⟩ := List.cons.inj hab
        exact List.cons_prefix_cons.mpr ⟨rfl, hfirst a b htail⟩

/-- Every text has pieces. -/
theorem exists_pieces (hold : old ≠ []) (limit : Option Nat) (t : Text) :
    ∃ pieces, Pieces old limit t pieces := by
  induction hn : t.length using Nat.strong_induction_on generalizing limit t with
  | _ n ih =>
    subst hn
    by_cases hlimit : limit = some 0
    · exact ⟨[t], hlimit ▸ .exhausted t⟩
    · by_cases h : old <:+: t
      · obtain ⟨before, after, rfl, hfirst⟩ := exists_first_occurrence h
        have hshorter : after.length < (before ++ (old ++ after)).length := by
          have := List.length_pos_of_ne_nil hold
          rw [List.length_append, List.length_append]
          omega
        obtain ⟨pieces, hpieces⟩ := ih _ hshorter (limit.map (· - 1)) after rfl
        exact ⟨before :: pieces, .occurrence hlimit hfirst hpieces⟩
      · exact ⟨[t], .absent limit h⟩

theorem Pieces.ne_nil {pieces : List Text} (h : Pieces old limit t pieces) : pieces ≠ [] := by
  cases h <;> exact List.cons_ne_nil _ _

/-- No text has two lists of pieces. -/
theorem Pieces.unique {pieces others : List Text} (h : Pieces old limit t pieces)
    (hothers : Pieces old limit t others) : pieces = others := by
  induction h generalizing others with
  | exhausted t =>
    cases hothers with
    | exhausted => rfl
    | absent => rfl
    | occurrence hlimit => exact absurd rfl hlimit
  | absent limit h =>
    cases hothers with
    | exhausted => rfl
    | absent => rfl
    | occurrence => exact absurd ⟨_, _, by rw [List.append_assoc]⟩ h
  | @occurrence limit before after pieces hlimit hfirst _ ih =>
    generalize ht : before ++ (old ++ after) = t at hothers
    cases hothers with
    | exhausted => exact absurd rfl hlimit
    | absent _ habsent => exact absurd ⟨before, after, by rw [List.append_assoc, ht]⟩ habsent
    | @occurrence _ front back others _ hfront hrest =>
      have hbefore : before = front :=
        (hfirst front back ht).eq_of_length_le (hfront before after ht.symm).length_le
      subst hbefore
      have hafter := List.append_cancel_left (List.append_cancel_left ht)
      rw [ih (hafter ▸ hrest)]

/-! ## What the pieces are -/

/-- The pattern between the pieces gives the text back. -/
theorem Pieces.intercalate_eq {pieces : List Text} (h : Pieces old limit t pieces) :
    old.intercalate pieces = t := by
  induction h with
  | exhausted t => exact List.intercalate_singleton
  | absent limit h => exact List.intercalate_singleton
  | @occurrence limit before after pieces hlimit hfirst hrest ih =>
    obtain ⟨next, others, rfl⟩ := List.exists_cons_of_ne_nil hrest.ne_nil
    rw [List.intercalate_cons_cons, ih, List.append_assoc]

/-- Without a limit no piece has an occurrence in it. -/
theorem Pieces.not_infix {pieces : List Text} (hold : old ≠ []) (h : Pieces old none t pieces) :
    ∀ piece ∈ pieces, ¬ old <:+: piece := by
  generalize hnone : none = limit at h
  induction h with
  | exhausted t => exact absurd hnone nofun
  | absent limit habsent => exact List.forall_mem_singleton.mpr habsent
  | @occurrence limit before after pieces hlimit hfirst hrest ih =>
    subst hnone
    refine List.forall_mem_cons.mpr ⟨?_, ih rfl⟩
    rintro ⟨a, b, hbefore⟩
    -- an occurrence in the piece would begin before the first one
    have hearlier := (hfirst a (b ++ (old ++ after)) (by rw [← hbefore]; simp)).length_le
    have := List.length_pos_of_ne_nil hold
    rw [← hbefore, List.length_append, List.length_append] at hearlier
    omega

/-! ## Replacing from place to place -/

/-- Nothing is replaced in an empty text. -/
theorem replaceFirst_nil (hold : old ≠ []) (limit : Nat) : replaceFirst old new limit [] = [] := by
  cases limit with
  | zero => rw [replaceFirst]
  | succ limit => rw [replaceFirst, if_neg (by simpa using hold)]

/-- A character at which no occurrence begins is left alone. -/
theorem replaceFirst_cons {c : Char} (h : ¬ old <+: c :: t) (limit : Nat) :
    replaceFirst old new limit (c :: t) = c :: replaceFirst old new limit t := by
  have hprefix : ¬ old.isPrefixOf (c :: t) := by rwa [List.isPrefixOf_iff_prefix]
  cases limit with
  | zero => rw [replaceFirst, replaceFirst]
  | succ limit => cases old <;> rw [replaceFirst, if_neg hprefix]

/-- A run in which no occurrence begins is left alone. -/
theorem replaceFirst_append {run : Text}
    (h : ∀ a b, run = a ++ b → b ≠ [] → ¬ old <+: b ++ u) (limit : Nat) :
    replaceFirst old new limit (run ++ u) = run ++ replaceFirst old new limit u := by
  induction run with
  | nil => rfl
  | cons c run ih =>
    have hhead : ¬ old <+: c :: (run ++ u) := h [] (c :: run) rfl (List.cons_ne_nil _ _)
    rw [List.cons_append, replaceFirst_cons hhead, ih, List.cons_append]
    exact fun a b hrun hb => h (c :: a) b (by rw [hrun, List.cons_append]) hb

/-- An occurrence at the front is replaced, if the limit allows for one. -/
theorem replaceFirst_occurrence (hold : old ≠ []) (limit : Nat) :
    replaceFirst old new (limit + 1) (old ++ u) = new ++ replaceFirst old new limit u := by
  cases old with
  | nil => exact absurd rfl hold
  | cons p ps =>
    have hprefix : (p :: ps).isPrefixOf (p :: (ps ++ u)) :=
      List.isPrefixOf_iff_prefix.mpr (List.prefix_append (p :: ps) u)
    rw [List.cons_append, replaceFirst, if_pos hprefix, List.drop_left]

/-- The empty pattern is an occurrence in front of every character. -/
theorem replaceFirst_empty (c : Char) (t : Text) (limit : Nat) :
    replaceFirst [] new (limit + 1) (c :: t) = new ++ c :: replaceFirst [] new limit t := by
  rw [replaceFirst, if_pos List.isPrefixOf_nil_left]

/-- All limits above the length of the text come to the same. -/
theorem replaceFirst_of_length_lt {m n : Nat} (hm : t.length < m) (hn : t.length < n) :
    replaceFirst old new m t = replaceFirst old new n t := by
  fun_induction replaceFirst old new m t generalizing n with
  | case1 => exact absurd hm (Nat.not_lt_zero _)
  | case2 old m hempty =>
    obtain ⟨n, rfl⟩ := Nat.exists_eq_succ_of_ne_zero (Nat.ne_zero_of_lt hn)
    rw [replaceFirst, if_pos hempty]
  | case3 old m hempty =>
    obtain ⟨n, rfl⟩ := Nat.exists_eq_succ_of_ne_zero (Nat.ne_zero_of_lt hn)
    rw [replaceFirst, if_neg hempty]
  | case4 m c t _ ih =>
    obtain ⟨n, rfl⟩ := Nat.exists_eq_succ_of_ne_zero (Nat.ne_zero_of_lt hn)
    rw [replaceFirst_empty, ih (Nat.lt_of_succ_lt_succ hm) (Nat.lt_of_succ_lt_succ hn)]
  | case5 m c t p ps hprefix ih =>
    obtain ⟨n, rfl⟩ := Nat.exists_eq_succ_of_ne_zero (Nat.ne_zero_of_lt hn)
    have hshorter : (t.drop ps.length).length ≤ t.length := (List.drop_sublist ..).length_le
    rw [replaceFirst, if_pos hprefix, ih (hshorter.trans_lt (Nat.lt_of_succ_lt_succ hm))
      (hshorter.trans_lt (Nat.lt_of_succ_lt_succ hn))]
  | case6 old m c t hprefix ih =>
    rw [replaceFirst_cons (by rwa [← List.isPrefixOf_iff_prefix]),
      ih (Nat.lt_of_succ_lt hm) (Nat.lt_of_succ_lt hn)]

/-! ## Replacing with a limit or without -/

theorem replace_exhausted : replace old new (some 0) t = t := by rw [replace, replaceFirst]

theorem replace_append {run : Text} (h : ∀ a b, run = a ++ b → b ≠ [] → ¬ old <+: b ++ u)
    (limit : Option Nat) : replace old new limit (run ++ u) = run ++ replace old new limit u := by
  cases limit with
  | some limit => exact replaceFirst_append h limit
  | none =>
    rw [replace, replace, replaceAll, replaceAll, replaceFirst_append h]
    refine congrArg (run ++ ·) (replaceFirst_of_length_lt ?_ (Nat.lt_succ_self _))
    rw [List.length_append]
    omega

theorem replace_cons {c : Char} (h : ¬ old <+: c :: t) (limit : Option Nat) :
    replace old new limit (c :: t) = c :: replace old new limit t := by
  have hrun : ∀ a b, [c] = a ++ b → b ≠ [] → ¬ old <+: b ++ t := by
    intro a b heq hb
    rcases List.singleton_eq_append_iff.mp heq with ⟨-, rfl⟩ | ⟨-, rfl⟩
    · exact h
    · exact absurd rfl hb
  exact replace_append hrun limit

theorem replace_of_absent (hold : old ≠ []) (h : ¬ old <:+: t) :
    replace old new limit t = t := by
  have hnowhere : ∀ a b, t = a ++ b → b ≠ [] → ¬ old <+: b ++ [] := by
    rintro a b rfl - hprefix
    rw [List.append_nil] at hprefix
    obtain ⟨more, rfl⟩ := hprefix
    exact h ⟨a, more, List.append_assoc ..⟩
  have hnil : replace old new limit [] = [] := by
    cases limit <;> exact replaceFirst_nil hold _
  rw [← List.append_nil t, replace_append hnowhere, hnil]

theorem replace_occurrence (hold : old ≠ []) (hlimit : limit ≠ some 0) :
    replace old new limit (old ++ u) = new ++ replace old new (limit.map (· - 1)) u := by
  match limit with
  | some 0 => exact absurd rfl hlimit
  | some (limit + 1) => exact replaceFirst_occurrence hold limit
  | none =>
    rw [replace, replaceAll, replaceFirst_occurrence hold]
    refine congrArg (new ++ ·) (replaceFirst_of_length_lt ?_ (Nat.lt_succ_self _))
    have := List.length_pos_of_ne_nil hold
    rw [List.length_append]
    omega

/-- A replacement writes the new text between the pieces. -/
theorem Pieces.replace_eq {pieces : List Text} (hold : old ≠ []) (h : Pieces old limit t pieces)
    (new : Text) : replace old new limit t = new.intercalate pieces := by
  induction h with
  | exhausted t => rw [replace_exhausted, List.intercalate_singleton]
  | absent limit h => rw [replace_of_absent hold h, List.intercalate_singleton]
  | @occurrence limit before after pieces hlimit hfirst hrest ih =>
    have hbefore : ∀ a b, before = a ++ b → b ≠ [] → ¬ old <+: b ++ (old ++ after) := by
      rintro a b rfl hb ⟨rest, hoccurs⟩
      -- an occurrence that begins in `b` would begin before the first one
      have hearlier := (hfirst a rest (by rw [hoccurs, List.append_assoc])).length_le
      have := List.length_pos_of_ne_nil hb
      rw [List.length_append] at hearlier
      omega
    obtain ⟨next, others, rfl⟩ := List.exists_cons_of_ne_nil hrest.ne_nil
    rw [replace_append hbefore, replace_occurrence hold hlimit, ih, List.intercalate_cons_cons,
      List.append_assoc]

end EscapeOnce.Text
