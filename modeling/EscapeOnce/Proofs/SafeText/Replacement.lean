import EscapeOnce.Proofs.Entity.Occurrences
import EscapeOnce.Proofs.Outcome
import EscapeOnce.SafeText.Operations

/-!
# Replacing in safe text

A replacement goes over the escaped buffer, and the characters of the entities are visible to it.
For a pattern that cannot begin inside an entity this makes no difference: what is replaced are the
occurrences in the raw text, and the result is the escaped form of the raw result.  A raw pattern
whose first character is none of the letters of entities is of that kind, any that begins with
markup included (`replace_escape_eq`).

A pattern of the other kind is not turned away.  Where it occurs inside an entity, a part of the
entity is cut out or the new text is put into it, and the `&` in front is left without its entity.
So a replacement keeps all well-escaped texts well-escaped exactly if its pattern is of the first
kind (`replace_wellEscaped_iff`).
-/

namespace EscapeOnce

open Entity Outcome

/-- Raw text, or safe text that is well-escaped. -/
def Value.JoinsWhole : Value → Prop
  | .str _ => True
  | .safe s => WellEscaped s.buffer
  | _ => False

/-- Such an operand joins safe text as an escaped form. -/
theorem Value.JoinsWhole.exists_operandText? {v : Value} (h : v.JoinsWhole) :
    ∃ r, v.operandText? = some (Entity.escape r) := by
  cases v with
  | str t => exact ⟨t, rfl⟩
  | safe s =>
    obtain ⟨r, hr⟩ := wellEscaped_iff_exists_escape.mp h
    exact ⟨r, congrArg some hr.symm⟩
  | _ => exact absurd h id

namespace SafeText

/-- A replacement writes the form of the new operand for that of the old one. -/
theorem replace_eq_ok (old new : Value) {pattern replacement : Text}
    (hold : old.operandText? = some pattern) (hnew : new.operandText? = some replacement)
    (s : SafeText) (limit : Option Nat) :
    s.replace old new limit = .ok (trusted (Text.replace pattern replacement limit s.buffer)) := by
  rw [replace, Value.operandText, Value.operandText, hold, hnew]
  rfl

/-! ## Patterns that cannot begin inside an entity -/

/-- Replacing in escaped text replaces the occurrences in the raw text, the first ones from the left
up to the limit, if the first character of the pattern is no letter of an entity. -/
theorem replace_escape_eq {c : Char} (hc : c ∉ letters) (pattern new t : Text)
    (limit : Option Nat) :
    ∃ pieces, (∀ others, Text.Pieces (c :: pattern) limit t others ↔ others = pieces) ∧
      Text.replace (c :: pattern) new limit t = new.intercalate pieces ∧
      (escape t).replace (.str (c :: pattern)) (.str new) limit =
        .ok (escape (new.intercalate pieces)) := by
  obtain ⟨pieces, hpieces⟩ := Text.exists_pieces (List.cons_ne_nil c pattern) limit t
  have hraw := hpieces.replace_eq (List.cons_ne_nil c pattern) new
  have hescaped := Entity.replace_escape (not_beginsInside_escape_cons hc pattern) new limit t
  refine ⟨pieces, fun others => ⟨fun h => h.unique hpieces, fun h => h ▸ hpieces⟩, hraw, ?_⟩
  rw [replace_eq_ok (.str (c :: pattern)) (.str new) rfl rfl, escape, escape, ← hraw,
    ← hescaped]

/-- Two angle brackets in a row of four: the first occurrence is taken, the second overlaps it and
the third is behind the limit. -/
theorem replace_escape_eq_overlapping :
    '<' ∉ letters ∧
    Text.Pieces "<<".toList (some 1) "a<<<<&".toList ["a".toList, "<<&".toList] ∧
    (escape "a<<<<&".toList).replace (.str "<<".toList) (.str ['"']) (some 1) =
      .ok (.trusted "a&quot;&lt;&lt;&amp;".toList) := by
  obtain ⟨pieces, hunique, -, hreplaced⟩ :=
    replace_escape_eq (c := '<') (by decide) ['<'] ['"'] "a<<<<&".toList (some 1)
  have hpieces : Text.Pieces "<<".toList (some 1) "a<<<<&".toList ["a".toList, "<<&".toList] := by
    have hfirst : ∀ a b, "a".toList ++ ("<<".toList ++ "<<&".toList) = a ++ ("<<".toList ++ b) →
        "a".toList <+: a := by
      intro a b hab
      cases a with
      | nil => exact absurd (List.cons.inj hab).1 (by decide)
      | cons d a => exact List.cons_prefix_cons.mpr ⟨(List.cons.inj hab).1, List.nil_prefix⟩
    have hlimit : some 1 ≠ some 0 := by decide
    exact .occurrence hlimit hfirst (.exhausted _)
  obtain rfl := (hunique _).mp hpieces
  exact ⟨by decide, hpieces, hreplaced⟩

/-! ## Patterns that can begin inside an entity -/

/-- Behind a part of an entity no `&` can stand. -/
theorem not_wellEscaped_of_cut {e : Char × Text} (he : e ∈ table) {before after : Text}
    (hbefore : before ≠ []) (hafter : after ≠ []) (hcut : e.2 = before ++ after) (rest : Text) :
    ¬ WellEscaped (before ++ '&' :: rest) := by
  have hprefixFree : ∀ e ∈ table, ∀ e' ∈ table, e'.2 <+: e.2 → e' = e := by decide
  intro hwhole
  obtain ⟨name, hname, -⟩ := exists_cons_of_mem_table he
  obtain ⟨d, before, rfl⟩ := List.exists_cons_of_ne_nil hbefore
  obtain rfl : '&' = d := (List.cons.inj (hname.symm.trans hcut)).1
  obtain ⟨found, hfound, hprefix⟩ := hwhole.2 [] (before ++ '&' :: rest) rfl
  obtain ⟨foundName, hfoundName, hunmarked⟩ := exists_cons_of_mem_table hfound
  rcases List.prefix_or_prefix_of_prefix hprefix (List.prefix_append ('&' :: before) ('&' :: rest))
    with hinside | ⟨more, hmore⟩
  · -- an entity that ends where the part does would be the beginning of another one
    obtain rfl := hprefixFree e he found hfound (hinside.trans ⟨after, hcut.symm⟩)
    have hlength := hinside.length_le
    have := List.length_pos_of_ne_nil hafter
    rw [hcut, List.length_append] at hlength
    omega
  · -- an entity that goes on behind the part would go on with the second `&`
    cases more with
    | nil =>
      rw [List.append_nil] at hmore
      obtain rfl := hprefixFree e he found hfound ⟨after, by rw [hcut, hmore]⟩
      rw [← hmore] at hcut
      exact hafter (List.self_eq_append_right.mp hcut)
    | cons d more =>
      rw [← hmore] at hprefix hfoundName
      obtain ⟨tail, htail⟩ := hprefix
      rw [List.append_assoc] at htail
      obtain rfl : d = '&' := (List.cons.inj (List.append_cancel_left htail)).1
      have hmem : '&' ∈ foundName := by
        rw [← (List.cons.inj hfoundName).2]
        simp
      exact (hunmarked '&' hmem).1 rfl

/-- A pattern that can begin inside an entity does so in some well-escaped text, and it does not
begin as the entity does. -/
theorem exists_wellEscaped_around {pattern : Text} (hpattern : WellEscaped pattern)
    (hne : pattern ≠ []) (h : BeginsInside pattern) :
    ∃ e ∈ table, ∃ front inner rest, e.2 = front ++ inner ∧ inner ≠ [] ∧
      WellEscaped (front ++ (pattern ++ rest)) ∧
      ∀ after, front ++ (pattern ++ rest) ≠ pattern ++ after := by
  obtain ⟨e, he, inner, ⟨front, hfront⟩, hinner, hprefix⟩ := h
  obtain ⟨name, hname, hunmarked⟩ := exists_cons_of_mem_table he
  rw [hname, List.tail_cons] at hfront
  have hentity : e.2 = '&' :: front ++ inner := by rw [hname, ← hfront, List.cons_append]
  have hhead : ∀ more after, '&' :: front ++ more ≠ pattern ++ after := by
    intro more after heq
    obtain ⟨c, pattern, rfl⟩ := List.exists_cons_of_ne_nil hne
    obtain ⟨d, inner, rfl⟩ := List.exists_cons_of_ne_nil hinner
    obtain rfl : '&' = c := (List.cons.inj heq).1
    have hsame : '&' = d := by
      rcases hprefix with hprefix | hprefix
      · exact (List.cons_prefix_cons.mp hprefix).1
      · exact (List.cons_prefix_cons.mp hprefix).1.symm
    have hmem : '&' ∈ name := by
      rw [← hfront, hsame]
      simp
    exact (hunmarked '&' hmem).1 rfl
  have hwhole : WellEscaped e.2 := escapeChar_of_mem_table he ▸ wellEscaped_escapeChar e.1
  rcases hprefix with ⟨rest, rfl⟩ | ⟨more, rfl⟩
  · exact ⟨e, he, '&' :: front, _, rest, hentity, hinner, hentity ▸ hwhole, hhead _⟩
  · refine ⟨e, he, '&' :: front, inner, [], hentity, hinner, ?_, hhead _⟩
    rw [List.append_nil, ← List.append_assoc, ← hentity]
    exact hwhole.append hpattern.of_append

/-- Where a pattern can begin inside an entity, there is a replacement that leaves an `&` without
its entity. -/
theorem exists_not_wellEscaped {pattern : Text} (hpattern : WellEscaped pattern)
    (h : BeginsInside pattern) :
    ∃ t limit, WellEscaped t ∧
      ¬ WellEscaped (Text.replace pattern (Entity.escape ['&']) limit t) := by
  by_cases hne : pattern = []
  · subst hne
    -- the second occurrence of the empty pattern stands behind the `&` of the entity
    refine ⟨Entity.escape ['&'], some 2, wellEscaped_escape _, fun hwhole => ?_⟩
    have hreplaced : Text.replace [] (Entity.escape ['&']) (some 2) (Entity.escape ['&']) =
        Entity.escape ['&'] ++ (['&'] ++ '&' :: "amp;amp;".toList) := by
      show Text.replaceFirst [] _ (0 + 1 + 1) ('&' :: 'a' :: "mp;".toList) = _
      rw [Text.replaceFirst_empty, Text.replaceFirst_empty, Text.replaceFirst]
      rfl
    rw [hreplaced] at hwhole
    exact not_wellEscaped_of_cut (e := ('&', "&amp;".toList)) (by decide) (List.cons_ne_nil '&' [])
      (List.cons_ne_nil _ _) rfl _ hwhole.of_append
  · obtain ⟨e, he, front, inner, rest, hentity, hinner, hwhole, hhead⟩ :=
      exists_wellEscaped_around hpattern hne h
    have hoccurs : pattern <:+: front ++ (pattern ++ rest) := ⟨front, rest, List.append_assoc ..⟩
    obtain ⟨before, after, heq, hfirst⟩ := Text.exists_first_occurrence hoccurs
    refine ⟨_, some 1, hwhole, ?_⟩
    have hlimit : some 1 ≠ some 0 := by decide
    have hpieces : Text.Pieces pattern (some 1) (before ++ (pattern ++ after)) [before, after] :=
      .occurrence hlimit (heq ▸ hfirst) (.exhausted after)
    obtain ⟨middle, hmiddle⟩ := hfirst front rest rfl
    have hbefore : before ≠ [] := by
      rintro rfl
      exact hhead after heq
    have hafter : middle ++ inner ≠ [] := fun hnil => hinner (List.append_eq_nil_iff.mp hnil).2
    have hcut : e.2 = before ++ (middle ++ inner) := by rw [hentity, ← hmiddle, List.append_assoc]
    rw [heq, hpieces.replace_eq hne, List.intercalate_cons_cons, List.intercalate_singleton,
      List.append_assoc]
    exact not_wellEscaped_of_cut he hbefore hafter hcut _

/-- A replacement of one operand by another keeps every well-escaped text well-escaped exactly if
the pattern, in the form in which it is searched for, cannot begin inside an entity. -/
theorem replace_wellEscaped_iff {old : Value} (hold : old.JoinsWhole) :
    (∀ (s : SafeText) (new : Value) (limit : Option Nat), WellEscaped s.buffer → new.JoinsWhole →
      ∃ r, s.replace old new limit = .ok r ∧ WellEscaped r.buffer) ↔
    ∀ pattern ∈ old.operandText?, ¬ BeginsInside pattern := by
  obtain ⟨q, hq⟩ := hold.exists_operandText?
  rw [hq]
  constructor
  · rintro hkeeps _ ⟨⟩ hinside
    obtain ⟨t, limit, ht, hbroken⟩ := exists_not_wellEscaped (wellEscaped_escape q) hinside
    obtain ⟨r, hr, hwhole⟩ := hkeeps (trusted t) (.str ['&']) limit ht trivial
    rw [replace_eq_ok old (.str ['&']) hq rfl] at hr
    cases hr
    exact hbroken hwhole
  · intro hinside s new limit hs hnew
    obtain ⟨n, hn⟩ := hnew.exists_operandText?
    obtain ⟨t, ht⟩ := wellEscaped_iff_exists_escape.mp hs
    refine ⟨_, replace_eq_ok old new hq hn s limit, ?_⟩
    rw [← ht]
    show WellEscaped (Text.replace (Entity.escape q) (Entity.escape n) limit (Entity.escape t))
    rw [Entity.replace_escape (hinside _ rfl)]
    exact wellEscaped_escape _

/-- A pattern may begin with a letter of an entity and go on as no entity does. -/
theorem replace_wellEscaped_iff_letter :
    (Value.str "t<".toList).JoinsWhole ∧ ¬ BeginsInside "t&lt;".toList ∧
    ∃ r, (escape "t<&".toList).replace (.str "t<".toList) (.safe (trusted "&quot;".toList)) none =
      .ok r ∧ WellEscaped r.buffer := by
  have hjoins : (Value.str "t<".toList).JoinsWhole := trivial
  have hinside : ¬ BeginsInside "t&lt;".toList := by decide
  refine ⟨hjoins, hinside, ?_⟩
  refine (replace_wellEscaped_iff hjoins).mpr ?_ _ _ none (wellEscaped_escape _)
    (wellEscaped_escape ['"'])
  rintro _ ⟨⟩
  exact hinside

/-- The letter `a` stands in the entity of the `&`, and replacing it leaves no entity. -/
theorem replace_letter_of_entity :
    WellEscaped (escape ['&']).buffer ∧
    (escape ['&']).replace (.str ['a']) (.str ['x']) none = .ok (trusted "&xmp;".toList) ∧
    ¬ WellEscaped "&xmp;".toList := by
  have hnone : ¬ ∃ e ∈ table, e.2 <+: "&xmp;".toList := by decide
  refine ⟨wellEscaped_escape _, by decide +kernel, fun hwhole => hnone ?_⟩
  exact hwhole.2 [] "xmp;".toList rfl

end SafeText

end EscapeOnce
