import EscapeOnce.Proofs.Text.Occurrences
import EscapeOnce.Proofs.Text.Slice
import EscapeOnce.ScriptSource

/-!
# No end tag is left in script source

Writing a character into a text could make a new `</` of what stands around it.  It cannot here: in
front of the backslash there is a `<` and behind it a `/`, and the backslash itself is neither.  So
the `</` that were there are gone and no other ones have come up (`not_infix_guardEndTags`), and
there is nothing left to do a second time.

Two occurrences of `</` have no character in common.  So a replacement from the left finds all of
them, and what stands between them stays as it is (`guardEndTags_eq_replace`).  Two sources can be
guarded one by one and then put together, unless a `</` lies across the point between them
(`guardEndTags_append_iff`).
-/

namespace EscapeOnce

/-- The number of places of a text at which a pattern begins. -/
def Text.occurrences (pattern t : Text) : Nat := t.tails.countP (pattern.isPrefixOf ·)

theorem Text.occurrences_cons (pattern : Text) (c : Char) (t : Text) :
    occurrences pattern (c :: t) =
      occurrences pattern t + if pattern.isPrefixOf (c :: t) then 1 else 0 := by
  rw [occurrences, List.tails_cons, List.countP_cons, occurrences]

namespace ScriptSource

/-- The beginning of an end tag. -/
def opener : Text := ['<', '/']

/-- The beginning of an end tag with a backslash in it, which is the beginning of none. -/
def guardedOpener : Text := ['<', '\\', '/']

variable {c : Char} {t x y : Text}

theorem opener_ne_nil : opener ≠ [] := List.cons_ne_nil _ _

/-! ## One step -/

theorem opener_prefix_cons_iff : opener <+: c :: t ↔ c = '<' ∧ t.head? = some '/' := by
  rw [opener, List.cons_prefix_cons, List.head?_eq_some_iff, eq_comm]
  refine and_congr_right fun _ => exists_congr fun u => ?_
  rw [List.singleton_append, eq_comm]

theorem guardEndTags_opener (t : Text) :
    guardEndTags ('<' :: '/' :: t) = '<' :: '\\' :: '/' :: guardEndTags t := by
  rw [guardEndTags]

theorem guardEndTags_cons (h : ¬ opener <+: c :: t) :
    guardEndTags (c :: t) = c :: guardEndTags t := by
  rw [guardEndTags]
  rintro u rfl rfl
  exact h (opener_prefix_cons_iff.mpr ⟨rfl, rfl⟩)

/-- A text is empty, or it begins with `</`, or it begins with a character at which no `</`
begins. -/
@[elab_as_elim]
theorem induction_on_openers {P : Text → Prop} (t : Text) (nil : P [])
    (guarded : ∀ t, P t → P ('<' :: '/' :: t))
    (kept : ∀ c t, ¬ opener <+: c :: t → P t → P (c :: t)) :
    P t := by
  fun_induction guardEndTags t with
  | case1 t ih => exact guarded t ih
  | case2 c t hno ih =>
    refine kept c t (fun hprefix => ?_) ih
    obtain ⟨rfl, hhead⟩ := opener_prefix_cons_iff.mp hprefix
    obtain ⟨u, rfl⟩ := List.head?_eq_some_iff.mp hhead
    exact hno u rfl rfl
  | case3 => exact nil

/-! ## What is there afterwards -/

theorem head?_guardEndTags (t : Text) : (guardEndTags t).head? = t.head? := by
  cases t using induction_on_openers with
  | nil => rfl
  | guarded t => rfl
  | kept c t h => rw [guardEndTags_cons h, List.head?_cons, List.head?_cons]

theorem getLast?_guardEndTags (t : Text) : (guardEndTags t).getLast? = t.getLast? := by
  induction t using induction_on_openers with
  | nil => rfl
  | guarded t ih =>
    rw [guardEndTags_opener, List.getLast?_cons_cons, List.getLast?_cons_cons,
      List.getLast?_cons_cons, List.getLast?_cons, List.getLast?_cons, ih]
  | kept c t h ih => rw [guardEndTags_cons h, List.getLast?_cons, List.getLast?_cons, ih]

/-- No end tag begins in guarded source. -/
theorem not_infix_guardEndTags (t : Text) : ¬ opener <:+: guardEndTags t := by
  induction t using induction_on_openers with
  | nil => exact fun h => opener_ne_nil (List.eq_nil_of_infix_nil h)
  | guarded t ih =>
    rw [guardEndTags_opener, List.infix_cons_iff, List.infix_cons_iff, List.infix_cons_iff,
      opener_prefix_cons_iff, opener_prefix_cons_iff, opener_prefix_cons_iff]
    rintro (⟨-, h⟩ | ⟨h, -⟩ | ⟨h, -⟩ | h)
    · exact absurd (Option.some.inj h) (by decide)
    · exact absurd h (by decide)
    · exact absurd h (by decide)
    · exact ih h
  | kept c t h ih =>
    rw [guardEndTags_cons h, List.infix_cons_iff, not_or, opener_prefix_cons_iff,
      head?_guardEndTags, ← opener_prefix_cons_iff]
    exact ⟨h, ih⟩

/-! ## Every occurrence is found -/

/-- Guarding is the replacement of all occurrences, taken from the left. -/
theorem guardEndTags_eq_replace (t : Text) :
    guardEndTags t = Text.replace opener guardedOpener none t := by
  induction t using induction_on_openers with
  | nil =>
    have habsent : ¬ opener <:+: [] := fun h => opener_ne_nil (List.eq_nil_of_infix_nil h)
    exact (Text.replace_of_absent opener_ne_nil habsent).symm
  | guarded t ih =>
    have hfirst : Text.replace opener guardedOpener none (opener ++ t) =
        guardedOpener ++ Text.replace opener guardedOpener none t :=
      Text.replace_occurrence opener_ne_nil nofun
    rw [guardEndTags_opener, ih]
    exact hfirst.symm
  | kept c t h ih => rw [guardEndTags_cons h, Text.replace_cons h, ih]

/-- Source in which no end tag begins stays as it is. -/
theorem guardEndTags_of_not_infix (h : ¬ opener <:+: t) : guardEndTags t = t := by
  rw [guardEndTags_eq_replace, Text.replace_of_absent opener_ne_nil h]

/-- Each occurrence makes the source longer by one character, which is one byte. -/
theorem size_guardEndTags (t : Text) :
    (guardEndTags t).length = t.length + Text.occurrences opener t ∧
    (guardEndTags t).utf8Size = t.utf8Size + Text.occurrences opener t := by
  induction t using induction_on_openers with
  | nil => exact ⟨rfl, rfl⟩
  | guarded t ih =>
    have hfirst : opener.isPrefixOf ('<' :: '/' :: t) := rfl
    have hsecond : ¬ opener.isPrefixOf ('/' :: t) := Bool.false_ne_true
    rw [guardEndTags_opener, Text.occurrences_cons, Text.occurrences_cons, if_pos hfirst,
      if_neg hsecond]
    simp only [List.length_cons, Text.utf8Size_cons, ih]
    have hbyte : '\\'.utf8Size = 1 := by decide
    omega
  | kept c t h ih =>
    rw [guardEndTags_cons h, Text.occurrences_cons, if_neg (by rwa [List.isPrefixOf_iff_prefix])]
    simp only [List.length_cons, Text.utf8Size_cons, ih]
    omega

/-! ## Sources put together -/

/-- Two sources can be guarded one by one exactly if no `</` lies across the point between them. -/
theorem guardEndTags_append_iff :
    guardEndTags (x ++ y) = guardEndTags x ++ guardEndTags y ↔
      ¬ (x.getLast? = some '<' ∧ y.head? = some '/') := by
  constructor
  · rintro heq ⟨hlast, hhead⟩
    rw [← getLast?_guardEndTags, List.getLast?_eq_some_iff] at hlast
    rw [← head?_guardEndTags, List.head?_eq_some_iff] at hhead
    obtain ⟨a, ha⟩ := hlast
    obtain ⟨b, hb⟩ := hhead
    refine not_infix_guardEndTags (x ++ y) ⟨a, b, ?_⟩
    rw [heq, ha, hb, opener]
    simp
  · intro h
    induction x using induction_on_openers with
    | nil => rfl
    | guarded t ih =>
      have ht : ¬ (t.getLast? = some '<' ∧ y.head? = some '/') := fun ⟨hlast, hhead⟩ =>
        h ⟨List.mem_getLast?_cons (List.mem_getLast?_cons hlast), hhead⟩
      rw [List.cons_append, List.cons_append, guardEndTags_opener, guardEndTags_opener, ih ht]
      rfl
    | kept c t hno ih =>
      have hacross : ¬ opener <+: c :: (t ++ y) := by
        rw [opener_prefix_cons_iff] at hno ⊢
        rintro ⟨rfl, hhead⟩
        cases t with
        | nil => exact h ⟨rfl, hhead⟩
        | cons d t => exact hno ⟨rfl, hhead⟩
      have ht : ¬ (t.getLast? = some '<' ∧ y.head? = some '/') := fun ⟨hlast, hhead⟩ =>
        h ⟨List.mem_getLast?_cons hlast, hhead⟩
      rw [List.cons_append, guardEndTags_cons hacross, guardEndTags_cons hno, ih ht,
        List.cons_append]

/-! ## Values -/

theorem ofValue_eq_ok {v : Value} (h : v.stringify = .ok t) :
    ofValue v = .ok (.trusted (guardEndTags t)) := by
  rw [ofValue, h]
  rfl

/-- The text of a value, raw or safe, comes out as script source in which no end tag begins.  It is
the text with one backslash between the two characters of every `</` and nothing else changed:
between the occurrences there are the same pieces before and after, and the source is longer by the
number of occurrences.  Guarding it again changes nothing, and the source of two texts one after the
other is that of the first followed by that of the second, unless the first ends with `<` and the
second begins with `/`. -/
theorem ofValue_guards_end_tags {v : Value} (hv : v.stringify = .ok x) :
    ∃ r, ofValue v = .ok r ∧
      ¬ "</".toList <:+: r.buffer ∧
      (∃ pieces : List Text, (∀ piece ∈ pieces, ¬ "</".toList <:+: piece) ∧
        x = "</".toList.intercalate pieces ∧ r.buffer = "<\\/".toList.intercalate pieces) ∧
      r.buffer.length = x.length + Text.occurrences "</".toList x ∧
      r.utf8Size = x.utf8Size + Text.occurrences "</".toList x ∧
      (∀ w : Value, w.stringify = .ok r.buffer → ofValue w = .ok r) ∧
      ∀ (w u : Value) (y : Text), w.stringify = .ok y → u.stringify = .ok (x ++ y) →
        ∃ s both, ofValue w = .ok s ∧ ofValue u = .ok both ∧
          (both = r ++ s ↔ ¬ (x.getLast? = some '<' ∧ y.head? = some '/')) := by
  have hclean := not_infix_guardEndTags x
  obtain ⟨pieces, hpieces⟩ := Text.exists_pieces opener_ne_nil none x
  have hreplaced :=
    (guardEndTags_eq_replace x).trans (hpieces.replace_eq opener_ne_nil guardedOpener)
  refine ⟨_, ofValue_eq_ok hv, hclean,
    ⟨pieces, hpieces.not_infix opener_ne_nil, hpieces.intercalate_eq.symm, hreplaced⟩,
    (size_guardEndTags x).1, (size_guardEndTags x).2, fun w hw => ?_, fun w u y hw hu => ?_⟩
  · rw [ofValue_eq_ok hw, guardEndTags_of_not_infix hclean]
  · refine ⟨_, _, ofValue_eq_ok hw, ofValue_eq_ok hu, ?_⟩
    rw [← guardEndTags_append_iff]
    exact ⟨congrArg SafeText.buffer, congrArg SafeText.trusted⟩

/-- Two `</` among other angle brackets, slashes and backslashes, and a third one that comes up only
when a slash follows. -/
theorem ofValue_guards_end_tags_crowded :
    let x := "<<//\\</<".toList
    (Value.str x).stringify = .ok x ∧
    ∃ r, ofValue (.str x) = .ok r ∧ r.buffer = "<<\\//\\<\\/<".toList ∧
      r.buffer.length = x.length + 2 ∧ ofValue (.safe r) = .ok r ∧
      ∃ s both, ofValue (.safe (.trusted "/b".toList)) = .ok s ∧
        ofValue (.str (x ++ "/b".toList)) = .ok both ∧ both ≠ r ++ s := by
  intro x
  have hx : (Value.str x).stringify = .ok x := rfl
  have hcount : Text.occurrences "</".toList x = 2 := by decide
  obtain ⟨r, hr, -, -, hlength, -, hagain, htogether⟩ := ofValue_guards_end_tags hx
  obtain ⟨s, both, hs, hboth, hiff⟩ :=
    htogether (.safe (.trusted "/b".toList)) (.str (x ++ "/b".toList)) "/b".toList rfl rfl
  have hbuffer : r.buffer = "<<\\//\\<\\/<".toList := by
    cases hr
    decide
  refine ⟨hx, r, hr, hbuffer, hlength.trans (by rw [hcount]), hagain _ rfl, s, both, hs, hboth, ?_⟩
  exact fun heq => hiff.mp heq ⟨rfl, rfl⟩

end ScriptSource

end EscapeOnce
