import EscapeOnce.Proofs.Entity.Occurrences
import EscapeOnce.Proofs.Text.Utf8
import EscapeOnce.SafeText.Operations

/-!
# Looking at the beginning and the end of safe text

A safe text is asked how it begins and how it ends in its escaped form, and a raw probe is escaped
for that.  At the beginning this is the question about the raw texts: no entity is the beginning of
another, so the probe begins at the first entity, goes on from entity to entity and is through at
the end of one (`startsWith_escape`).

At the end it is not quite.  An end of the escaped form may begin inside an entity, behind its `&`,
and a raw probe that looks like the end of an entity is its own escaped form.  So a text that ends
with an `&` is found to end with a semicolon.  This is the only way in which the answer can differ
from that for the raw texts: the probe is an end of an entity, and then what stands behind the
character of that entity (`ReachesInto`).  A probe that does not begin with the end of an entity is
not touched by it, and every other one is, in some text (`endsWith_escape`).
-/

namespace EscapeOnce

namespace Entity

/-- The text ends with a markup character and some more, and the probe is an end of the entity of
that character, without its `&`, with the same behind it. -/
def ReachesInto (t probe : Text) : Prop :=
  ∃ entity ∈ table, ∃ inner rest, inner ≠ [] ∧ inner <:+ entity.2.tail ∧ probe = inner ++ rest ∧
    entity.1 :: rest <:+ t

/-- The probe begins with an end of an entity, without its `&`. -/
def BeginsWithEnd (probe : Text) : Prop :=
  ∃ entity ∈ table, ∃ inner, inner ≠ [] ∧ inner <:+ entity.2.tail ∧ inner <+: probe

instance (t probe : Text) : Decidable (ReachesInto t probe) :=
  decidable_of_iff
    (∃ entity ∈ table, ∃ inner ∈ entity.2.tail.tails, inner ≠ [] ∧ inner <+: probe ∧
      entity.1 :: probe.drop inner.length <:+ t) <| by
    refine exists_congr fun entity => and_congr_right fun _ => exists_congr fun inner => ?_
    rw [List.mem_tails]
    constructor
    · rintro ⟨hinner, hne, ⟨rest, rfl⟩, hends⟩
      rw [List.drop_left] at hends
      exact ⟨rest, hne, hinner, rfl, hends⟩
    · rintro ⟨rest, hne, hinner, rfl, hends⟩
      rw [List.drop_left]
      exact ⟨hinner, hne, List.prefix_append inner rest, hends⟩

theorem ReachesInto.beginsWithEnd {t probe : Text} (h : ReachesInto t probe) :
    BeginsWithEnd probe := by
  obtain ⟨entity, hmem, inner, rest, hne, hinner, rfl, -⟩ := h
  exact ⟨entity, hmem, inner, hne, hinner, List.prefix_append inner rest⟩

/-- The entity of a character of the table is an `&` and letters without markup. -/
theorem unmarked_of_suffix_tail {entity : Char × Text} (h : entity ∈ table) {inner : Text}
    (hinner : inner <:+ entity.2.tail) : Unmarked inner := by
  obtain ⟨name, hname, hunmarked⟩ := exists_cons_of_mem_table h
  rw [hname] at hinner
  exact hunmarked.subset hinner.subset

/-- An end of an entity without its `&`, and behind it an escaped text, is the escaped form of what
it shows. -/
theorem append_escape_of_suffix_tail {entity : Char × Text} (h : entity ∈ table) {inner : Text}
    (hinner : inner <:+ entity.2.tail) (rest : Text) :
    inner ++ escape rest = escape (inner ++ rest) := by
  rw [escape_append, escape_eq_self (unmarked_of_suffix_tail h hinner)]

theorem escape_injective {a b : Text} (h : escape a = escape b) : a = b := by
  rw [← decode_escape a, h, decode_escape]

/-- A part of the escaped form of a character, up to its end, is all of it, or the character is
markup and the part is an end of its entity without the `&`. -/
theorem suffix_escapeChar_cases {c : Char} {inner : Text} (hne : inner ≠ [])
    (hinner : inner <:+ escapeChar c) :
    inner = escapeChar c ∨ ∃ entity ∈ table, entity.1 = c ∧ inner <:+ entity.2.tail := by
  rcases mem_table_or_unmarked c with ⟨entity, hmem, rfl⟩ | hunmarked
  · obtain ⟨name, hname, -⟩ := exists_cons_of_mem_table hmem
    rw [escapeChar_of_mem_table hmem, hname] at hinner ⊢
    refine (List.suffix_cons_iff.mp hinner).imp_right fun htail => ⟨entity, hmem, rfl, ?_⟩
    rw [hname]
    exact htail
  · rw [escapeChar_of_unmarked hunmarked] at hinner ⊢
    refine Or.inl ((List.suffix_cons_iff.mp hinner).resolve_right fun hnil => hne ?_)
    exact List.suffix_nil.mp hnil

/-- An escaped text ends with an escaped probe exactly if the text ends with the probe or the probe
reaches into an entity.  The induction is on the text: the probe stands behind its first character
or goes back into the escaped form of it. -/
theorem escape_isSuffix_iff {probe t : Text} :
    escape probe <:+ escape t ↔ probe <:+ t ∨ ReachesInto t probe := by
  constructor
  · intro h
    induction t with
    | nil =>
      have hnil : escape probe = escape [] := List.suffix_nil.mp h
      exact Or.inl (escape_injective hnil ▸ List.suffix_rfl)
    | cons c t ih =>
      rcases Text.suffix_append_cases (escape_cons c t ▸ h) with hrest | ⟨inner, hne, hinner, heq⟩
      · refine (ih hrest).imp (fun hends => hends.trans (List.suffix_cons c t)) ?_
        rintro ⟨entity, hmem, inner, rest, hne, hinner, hprobe, hends⟩
        exact ⟨entity, hmem, inner, rest, hne, hinner, hprobe, hends.trans (List.suffix_cons c t)⟩
      · rcases suffix_escapeChar_cases hne hinner with rfl | ⟨entity, hmem, rfl, htail⟩
        · rw [← escape_cons] at heq
          exact Or.inl (escape_injective heq ▸ List.suffix_rfl)
        · rw [append_escape_of_suffix_tail hmem htail] at heq
          exact Or.inr ⟨entity, hmem, inner, t, hne, htail, escape_injective heq, List.suffix_rfl⟩
  · rintro (⟨front, rfl⟩ | ⟨entity, hmem, inner, rest, -, hinner, rfl, front, rfl⟩)
    · rw [escape_append]
      exact List.suffix_append ..
    · obtain ⟨name, hname, -⟩ := exists_cons_of_mem_table hmem
      have hentity : inner <:+ entity.2 := hinner.trans (List.tail_suffix _)
      obtain ⟨before, hbefore⟩ := hentity
      refine ⟨escape front ++ before, ?_⟩
      rw [← append_escape_of_suffix_tail hmem hinner, escape_append, escape_cons,
        escapeChar_of_mem_table hmem, ← hbefore]
      simp only [List.append_assoc]

/-- A probe that begins with an end of an entity is found at the end of some text that does not end
with it. -/
theorem BeginsWithEnd.exists_reachesInto {probe : Text} (h : BeginsWithEnd probe) :
    ∃ t, ReachesInto t probe ∧ ¬ probe <:+ t := by
  obtain ⟨entity, hmem, inner, hne, hinner, rest, rfl⟩ := h
  refine ⟨entity.1 :: rest, ⟨entity, hmem, inner, rest, hne, hinner, rfl, List.suffix_rfl⟩, ?_⟩
  intro hends
  obtain ⟨c, inner, rfl⟩ := List.exists_cons_of_ne_nil hne
  -- the probe is no shorter than the text, so it would be the text and begin with markup
  have hwhole : c :: inner ++ rest = entity.1 :: rest := by
    refine hends.eq_of_length_le ?_
    simp only [List.length_cons, List.length_append]
    omega
  have hsame : c = entity.1 := (List.cons.inj hwhole).1
  have hunmarked : Unmarked [c] :=
    (unmarked_of_suffix_tail hmem hinner).of_mem List.mem_cons_self
  have hmarked : ∀ e ∈ table, ¬ Unmarked [e.1] := by decide
  exact hmarked entity hmem (hsame ▸ hunmarked)

end Entity

open Entity

namespace SafeText

/-- An escaped text begins with a raw probe exactly if the raw text does, and it gives the same
answer to the escaped form of the probe, also by bytes.  Where it begins with the probe, the probe
ends between two entities: what is left of the escaped text is the escaped form of what is left of
the raw one. -/
theorem startsWith_escape (t probe : Text) :
    (escape t).startsWith (.str probe) = .ok (decide (probe <+: t)) ∧
    (escape t).startsWith (.safe (escape probe)) = .ok (decide (probe <+: t)) ∧
    ((escape probe).buffer.utf8 <+: (escape t).buffer.utf8 ↔ probe <+: t) ∧
    ∀ left, (escape t).buffer = (escape probe).buffer ++ left ↔
      ∃ rest, left = Entity.escape rest ∧ t = probe ++ rest := by
  have hfound : (Entity.escape probe).isPrefixOf (Entity.escape t) = decide (probe <+: t) := by
    rw [Bool.eq_iff_iff, List.isPrefixOf_iff_prefix, decide_eq_true_eq, escape_isPrefix_iff]
  refine ⟨congrArg Except.ok hfound, congrArg Except.ok hfound,
    Text.utf8_isPrefix_iff.trans escape_isPrefix_iff, fun left => ⟨fun hleft => ?_, ?_⟩⟩
  · obtain ⟨rest, rfl⟩ := escape_isPrefix_iff.mp ⟨left, Eq.symm hleft⟩
    have hescaped : Entity.escape probe ++ Entity.escape rest = Entity.escape probe ++ left :=
      (escape_append probe rest).symm.trans hleft
    exact ⟨rest, (List.append_cancel_left hescaped).symm, rfl⟩
  · rintro ⟨rest, rfl, rfl⟩
    exact escape_append probe rest

/-- An escaped text ends with a raw probe, by characters or by bytes, exactly if the raw text does
or the probe reaches into an entity.  This is the answer for the raw text, whatever text it is,
exactly for the probes that do not begin with an end of an entity. -/
theorem endsWith_escape (probe : Text) :
    (∀ t, (escape t).endsWith (.str probe) = .ok (decide (probe <:+ t ∨ ReachesInto t probe))) ∧
    (∀ t, (escape probe).buffer.utf8 <:+ (escape t).buffer.utf8 ↔
      probe <:+ t ∨ ReachesInto t probe) ∧
    ((∀ t, (escape t).endsWith (.str probe) = .ok (decide (probe <:+ t))) ↔
      ¬ BeginsWithEnd probe) := by
  have hfound : ∀ t, (escape t).endsWith (.str probe) =
      .ok (decide (probe <:+ t ∨ ReachesInto t probe)) := by
    intro t
    have hends : (Entity.escape probe).isSuffixOf (Entity.escape t) =
        decide (probe <:+ t ∨ ReachesInto t probe) := by
      rw [Bool.eq_iff_iff, List.isSuffixOf_iff_suffix, decide_eq_true_eq, escape_isSuffix_iff]
    exact congrArg Except.ok hends
  refine ⟨hfound, fun t => Text.utf8_isSuffix_iff.trans escape_isSuffix_iff, fun hraw hbegins => ?_,
    fun hbegins t => ?_⟩
  · obtain ⟨t, hreaches, hends⟩ := hbegins.exists_reachesInto
    have hanswer := Except.ok.inj ((hfound t).symm.trans (hraw t))
    rw [decide_eq_true (Or.inr hreaches), decide_eq_false hends] at hanswer
    cases hanswer
  · have honly : (probe <:+ t ∨ ReachesInto t probe) ↔ probe <:+ t :=
      or_iff_left fun hreaches => hbegins hreaches.beginsWithEnd
    rw [hfound t, decide_eq_decide.mpr honly]

/-- An `&` does not end with a semicolon, but its entity does. -/
theorem endsWith_semicolon_of_entity :
    (escape ['&']).endsWith (.str [';']) = .ok true ∧ ¬ [';'] <:+ ['&'] := by
  decide

end SafeText

end EscapeOnce
