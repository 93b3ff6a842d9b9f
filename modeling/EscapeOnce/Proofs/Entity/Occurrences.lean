import EscapeOnce.Proofs.Entity.Lossless
import EscapeOnce.Proofs.Text.Occurrences

/-!
# Where an escaped pattern occurs in an escaped text

Whoever searches an escaped text for an escaped pattern means the raw text and the raw pattern.  At
the front this comes to the same: no entity is the beginning of another, so an escaped form begins
with an escaped pattern exactly if the text begins with the pattern (`escape_isPrefix_iff`).

Further behind there is one danger.  The search goes from character to character, through the
entities too, and the pattern may occur at a place inside an entity, where no raw character begins.
Whether it can is seen from the pattern alone (`BeginsInside`).  A pattern that cannot occurs in an
escaped text exactly where it occurs in the raw one (`exists_of_escape_eq_append`), the pieces of
the escaped text are the escaped pieces of the raw one (`Text.Pieces.escape`), and replacing it in
the escaped text is replacing it in the raw one (`replace_escape`).
-/

namespace EscapeOnce

namespace Entity

/-! ## At the front -/

theorem decode_escape_append (r t : Text) : decode (escape r ++ t) = r ++ decode t := by
  induction r with
  | nil => rfl
  | cons c r ih =>
    rw [escape_cons, List.append_assoc, decode_escapeChar_append, ih, List.cons_append]

/-- A text begins with another exactly if their escaped forms do. -/
theorem escape_isPrefix_iff {a b : Text} : escape a <+: escape b ↔ a <+: b := by
  constructor
  · rintro ⟨rest, hrest⟩
    have hdecoded := congrArg decode hrest
    rw [decode_escape_append, decode_escape] at hdecoded
    exact ⟨decode rest, hdecoded⟩
  · rintro ⟨rest, rfl⟩
    rw [escape_append]
    exact List.prefix_append ..

theorem escape_intercalate (separator : Text) (parts : List Text) :
    escape (separator.intercalate parts) =
      (escape separator).intercalate (parts.map escape) := by
  induction parts with
  | nil => rfl
  | cons t parts ih =>
    cases parts with
    | nil => rw [List.map_singleton, List.intercalate_singleton, List.intercalate_singleton]
    | cons u parts =>
      rw [List.intercalate_cons_cons, escape_append, escape_append, ih]
      exact List.intercalate_cons_cons.symm

/-! ## Inside an entity -/

/-- An occurrence of the pattern can begin inside an entity: some end of the entity without its `&`
begins with the pattern, or the pattern goes on behind it. -/
def BeginsInside (pattern : Text) : Prop :=
  ∃ entity ∈ table, ∃ inner, inner <:+ entity.2.tail ∧ inner ≠ [] ∧
    (pattern <+: inner ∨ inner <+: pattern)

instance : DecidablePred BeginsInside := fun pattern =>
  decidable_of_iff
    (∃ entity ∈ table, ∃ inner ∈ entity.2.tail.tails,
      inner ≠ [] ∧ (pattern <+: inner ∨ inner <+: pattern))
    (by simp only [BeginsInside, List.mem_tails])

/-- The characters of the entities behind their `&`. -/
def letters : Text := ['a', 'm', 'p', 'l', 't', 'g', 'q', 'u', 'o', ';']

/-- The empty pattern occurs everywhere. -/
theorem beginsInside_nil : BeginsInside [] := by decide

/-- A pattern that begins with none of the letters of entities cannot begin inside one. -/
theorem not_beginsInside_cons {c : Char} (hc : c ∉ letters) (pattern : Text) :
    ¬ BeginsInside (c :: pattern) := by
  rintro ⟨entity, hentity, inner, hinner, hnil, hprefix⟩
  have hletters : ∀ e ∈ table, e.2.tail.all (· ∈ letters) = true := by decide
  obtain ⟨d, inner, rfl⟩ := List.exists_cons_of_ne_nil hnil
  have hsame : d = c := by
    rcases hprefix with hprefix | hprefix
    · exact (List.cons_prefix_cons.mp hprefix).1.symm
    · exact (List.cons_prefix_cons.mp hprefix).1
  have hmem : d ∈ entity.2.tail := hinner.subset List.mem_cons_self
  have hletter : d ∈ letters :=
    of_decide_eq_true (List.all_eq_true.mp (hletters entity hentity) d hmem)
  exact hc (hsame ▸ hletter)

/-- An escaped pattern begins with an `&`, which is no letter of an entity, or as the raw one
does. -/
theorem not_beginsInside_escape_cons {c : Char} (hc : c ∉ letters) (t : Text) :
    ¬ BeginsInside (escape (c :: t)) := by
  rw [escape_cons]
  rcases mem_table_or_unmarked c with ⟨entity, hmem, rfl⟩ | hunmarked
  · obtain ⟨name, hname, -⟩ := exists_cons_of_mem_table hmem
    rw [escapeChar_of_mem_table hmem, hname]
    exact not_beginsInside_cons (by decide) _
  · rw [escapeChar_of_unmarked hunmarked]
    exact not_beginsInside_cons hc _

theorem escape_ne_nil {t : Text} (h : t ≠ []) : escape t ≠ [] := by
  rintro hnil
  have hlength := length_le_length_escape t
  rw [hnil] at hlength
  exact h (List.eq_nil_of_length_eq_zero (Nat.le_zero.mp hlength))

/-- A pattern that stands inside the escaped form of a character can begin inside an entity. -/
theorem beginsInside_of_escapeChar_eq {pattern front inner t u : Text} {c : Char}
    (hc : escapeChar c = front ++ inner) (hfront : front ≠ []) (hinner : inner ≠ [])
    (hoccurs : pattern ++ t = inner ++ u) : BeginsInside pattern := by
  rcases mem_table_or_unmarked c with ⟨entity, hmem, rfl⟩ | hunmarked
  · refine ⟨entity, hmem, inner, ?_, hinner, ?_⟩
    · obtain ⟨d, front, rfl⟩ := List.exists_cons_of_ne_nil hfront
      rw [← escapeChar_of_mem_table hmem, hc]
      exact List.suffix_append front inner
    · exact List.prefix_or_prefix_of_prefix (List.prefix_append pattern t) ⟨u, hoccurs.symm⟩
  · -- a character that stands for itself has no inside
    have hlength := congrArg List.length hc
    have := List.length_pos_of_ne_nil hfront
    have := List.length_pos_of_ne_nil hinner
    rw [escapeChar_of_unmarked hunmarked, List.length_singleton, List.length_append] at hlength
    omega

/-- An escaped pattern that cannot occur inside an entity occurs in an escaped text only where the
pattern occurs in the raw text.  The induction is on the raw text: the place is in front of the
first character, inside its escaped form or behind it. -/
theorem exists_of_escape_eq_append {pattern : Text} (h : ¬ BeginsInside (escape pattern))
    {t front rest : Text} (hoccurs : escape t = front ++ (escape pattern ++ rest)) :
    ∃ before after, front = escape before ∧ rest = escape after ∧
      t = before ++ (pattern ++ after) := by
  induction t generalizing front with
  | nil =>
    have hnil := (List.append_eq_nil_iff.mp hoccurs.symm).2
    exact absurd ((List.append_eq_nil_iff.mp hnil).1 ▸ beginsInside_nil) h
  | cons c t ih =>
    cases front with
    | nil =>
      obtain ⟨after, hafter⟩ := escape_isPrefix_iff.mp ⟨rest, hoccurs.symm⟩
      rw [← hafter, escape_append] at hoccurs
      exact ⟨[], after, rfl, (List.append_cancel_left hoccurs).symm, hafter.symm⟩
    | cons d front =>
      rw [escape_cons] at hoccurs
      rcases List.append_eq_append_iff.mp hoccurs with ⟨middle, hfront, ht⟩ | ⟨inner, hc, hinner⟩
      · obtain ⟨before, after, rfl, rfl, rfl⟩ := ih ht
        exact ⟨c :: before, after, by rw [hfront, escape_cons], rfl, rfl⟩
      · by_cases hnil : inner = []
        · subst hnil
          have hrest : Entity.escape t = [] ++ (Entity.escape pattern ++ rest) := hinner.symm
          obtain ⟨before, after, hbefore, rfl, rfl⟩ := ih hrest
          refine ⟨c :: before, after, ?_, rfl, rfl⟩
          rw [escape_cons, ← hbefore, hc, List.append_nil, List.append_nil]
        · exact absurd (beginsInside_of_escapeChar_eq hc (List.cons_ne_nil d front) hnil hinner) h

end Entity

/-! ## Pieces and replacements -/

open Entity

variable {old : Text} (h : ¬ BeginsInside (escape old))
include h

/-- The pieces of an escaped text are the escaped pieces. -/
theorem Text.Pieces.escape {limit : Option Nat} {t : Text} {pieces : List Text}
    (hpieces : Pieces old limit t pieces) :
    Pieces (Entity.escape old) limit (Entity.escape t) (pieces.map Entity.escape) := by
  induction hpieces with
  | exhausted t => exact .exhausted _
  | absent limit habsent =>
    refine .absent limit fun ⟨front, rest, hoccurs⟩ => habsent ?_
    rw [List.append_assoc] at hoccurs
    obtain ⟨before, after, -, -, rfl⟩ := exists_of_escape_eq_append h hoccurs.symm
    exact ⟨before, after, List.append_assoc ..⟩
  | @occurrence limit before after pieces hlimit hfirst _ ih =>
    rw [escape_append, escape_append]
    refine .occurrence hlimit (fun front rest hoccurs => ?_) ih
    rw [← escape_append, ← escape_append] at hoccurs
    obtain ⟨a, b, rfl, -, heq⟩ := exists_of_escape_eq_append h hoccurs
    exact escape_isPrefix_iff.mpr (hfirst a b heq)

/-- Replacing in an escaped text is replacing in the raw text. -/
theorem Entity.replace_escape (new : Text) (limit : Option Nat) (t : Text) :
    Text.replace (escape old) (escape new) limit (escape t) =
      escape (Text.replace old new limit t) := by
  have hold : old ≠ [] := by
    rintro rfl
    exact h beginsInside_nil
  obtain ⟨pieces, hpieces⟩ := Text.exists_pieces hold limit t
  rw [(hpieces.escape h).replace_eq (escape_ne_nil hold), hpieces.replace_eq hold,
    escape_intercalate]

end EscapeOnce
