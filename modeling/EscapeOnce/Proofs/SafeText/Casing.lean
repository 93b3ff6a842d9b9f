import EscapeOnce.Proofs.Text.Casing
import EscapeOnce.SafeText.Operations

/-!
# Case of safe texts

Case is changed in the escaped form, where every markup character is a word of letters between an
`&` and a semicolon.

Lower case does not see the difference.  The letters of the entities are small already, so the only
question is the capital sigma, which looks past any number of case-ignorable characters on both
sides for a cased one.  What it can meet of an entity is its `&` from the left and its semicolon
from the right, and neither of these is case-ignorable or cased, just like the markup character that
the entity stands for.  So at every sigma the search goes the same way through the escaped form as
through the raw text (`meetsCased_escape`, `lowerAfter_escape`), and lower case commutes with
escaping; so does capitalizing, which cuts off the first character of the escaped form and so may
begin the rest inside an entity (`lower_escape_and_capitalize_escape`).

Upper case does see it.  The entities have no capital letter, so not one of them is left
(`upper_wellEscaped_iff`).
-/

namespace EscapeOnce

open Entity

/-! ## What a sigma meets -/

namespace Unicode

/-- The character ends the search for a cased character without being one. -/
def IsCaseBarrier (c : Char) : Prop := isCaseIgnorable c = false ∧ isCased c = false

instance : DecidablePred IsCaseBarrier := fun c =>
  inferInstanceAs (Decidable (isCaseIgnorable c = false ∧ isCased c = false))

theorem isCaseBarrier_of_mem_table {entity : Char × Text} (h : entity ∈ table) :
    IsCaseBarrier entity.1 := by
  have hall : ∀ e ∈ table, IsCaseBarrier e.1 := by decide +kernel
  exact hall entity h

/-- A markup character has no case. -/
theorem caseless_of_mem_table {entity : Char × Text} (h : entity ∈ table) :
    lowerOf entity.1 = [entity.1] ∧ upperOf entity.1 = [entity.1] := by
  have hall : ∀ e ∈ table, lowerOf e.1 = [e.1] ∧ upperOf e.1 = [e.1] := by decide +kernel
  exact hall entity h

theorem unmarked_lowerOf {c : Char} (h : Unmarked [c]) : Unmarked (lowerOf c) :=
  (lowerOf_cases c).elim (fun hself => hself ▸ h) id

theorem unmarked_upperOf {c : Char} (h : Unmarked [c]) : Unmarked (upperOf c) :=
  (upperOf_cases c).elim (fun hself => hself ▸ h) id

end Unicode

open Unicode

namespace Text

theorem meetsCased_cons (c : Char) (t : Text) :
    meetsCased (c :: t) = if isCaseIgnorable c then meetsCased t else isCased c := by
  by_cases hc : isCaseIgnorable c
  · rw [meetsCased, List.dropWhile_cons_of_pos hc, if_pos hc]
    rfl
  · rw [meetsCased, List.dropWhile_cons_of_neg hc, if_neg hc]

theorem meetsCased_cons_of_barrier {c : Char} (h : IsCaseBarrier c) (t : Text) :
    meetsCased (c :: t) = false := by
  rw [meetsCased_cons, h.1, if_neg Bool.false_ne_true, h.2]

/-- What has been passed of an entity, nearest first, begins with its semicolon. -/
theorem meetsCased_reverse_append {entity : Char × Text} (h : entity ∈ table) {name : Text}
    (hname : entity.2 = '&' :: name) (before : Text) :
    meetsCased (name.reverse ++ before) = false := by
  have hlast : ∀ e ∈ table, e.2.tail.getLast? = some ';' := by decide
  obtain ⟨front, hfront⟩ := List.getLast?_eq_some_iff.mp (hlast entity h)
  rw [hname, List.tail_cons] at hfront
  rw [hfront, List.reverse_append, List.reverse_singleton, List.singleton_append, List.cons_append]
  exact meetsCased_cons_of_barrier (by decide +kernel) _

/-- Whether a cased character comes next is the same in the escaped form. -/
theorem meetsCased_escape (t : Text) : meetsCased (escape t) = meetsCased t := by
  induction t with
  | nil => rfl
  | cons c t ih =>
    rcases mem_table_or_unmarked c with ⟨entity, hmem, rfl⟩ | hc
    · obtain ⟨name, hname, -⟩ := exists_cons_of_mem_table hmem
      rw [escape_cons, escapeChar_of_mem_table hmem, hname, List.cons_append,
        meetsCased_cons_of_barrier (by decide +kernel),
        meetsCased_cons_of_barrier (isCaseBarrier_of_mem_table hmem)]
    · rw [escape_cons_of_unmarked hc, meetsCased_cons, meetsCased_cons, ih]

/-! ## Lower case of an escaped form -/

theorem lowerBetween_of_mem_table {entity : Char × Text} (h : entity ∈ table)
    (before after : Text) : lowerBetween before entity.1 after = [entity.1] := by
  have hsigma : ∀ e ∈ table, e.1 ≠ 'Σ' := by decide
  rw [lowerBetween, if_neg (hsigma entity h), (caseless_of_mem_table h).1]

theorem unmarked_lowerBetween {c : Char} (h : Unmarked [c]) (before after : Text) :
    Unmarked (lowerBetween before c after) := by
  rw [lowerBetween]
  split
  · split <;> decide
  · exact unmarked_lowerOf h

/-- Lower case commutes with escaping behind characters that answer a sigma alike.  The induction is
on the raw text; an entity is passed as a whole, and behind it a sigma meets a barrier on either
side of the equation. -/
theorem lowerAfter_escape (t : Text) {before passed : Text}
    (h : meetsCased passed = meetsCased before) :
    lowerAfter passed (escape t) = escape (lowerAfter before t) := by
  induction t generalizing before passed with
  | nil => rfl
  | cons c t ih =>
    rcases mem_table_or_unmarked c with ⟨entity, hmem, rfl⟩ | hc
    · obtain ⟨name, hname, -⟩ := exists_cons_of_mem_table hmem
      have hkept := lowerAfter_append (escape t)
        (fun c hc before after => lowerBetween_of_mem_entity hmem before after hc) passed
      have hbehind : meetsCased (entity.2.reverse ++ passed) = meetsCased (entity.1 :: before) := by
        rw [hname, List.reverse_cons, List.append_assoc, meetsCased_reverse_append hmem hname,
          meetsCased_cons_of_barrier (isCaseBarrier_of_mem_table hmem)]
      rw [escape_cons, escapeChar_of_mem_table hmem, hkept, ih hbehind, lowerAfter,
        lowerBetween_of_mem_table hmem, List.singleton_append, escape_cons,
        escapeChar_of_mem_table hmem]
    · have hbehind : meetsCased (c :: passed) = meetsCased (c :: before) := by
        rw [meetsCased_cons, meetsCased_cons, h]
      have hsame : lowerBetween passed c (escape t) = lowerBetween before c t := by
        rw [lowerBetween, lowerBetween, h, meetsCased_escape]
      rw [escape_cons_of_unmarked hc, lowerAfter, hsame, ih hbehind, lowerAfter, escape_append,
        escape_eq_self (unmarked_lowerBetween hc before t)]

theorem lower_escape (t : Text) : lower (escape t) = escape (lower t) := lowerAfter_escape t rfl

theorem capitalize_eq (t : Text) : capitalize t = upper (t.take 1) ++ lower (t.drop 1) := by
  cases t with
  | nil => rfl
  | cons c t =>
    show upperOf c ++ lower t = (upperOf c ++ []) ++ lower t
    rw [List.append_nil]

theorem capitalize_escape (t : Text) : capitalize (escape t) = escape (capitalize t) := by
  cases t with
  | nil => rfl
  | cons c t =>
    rw [capitalize, escape_append, ← lower_escape]
    rcases mem_table_or_unmarked c with ⟨entity, hmem, rfl⟩ | hc
    · obtain ⟨name, hname, -⟩ := exists_cons_of_mem_table hmem
      have hamp : upperOf '&' = ['&'] := by decide +kernel
      -- the rest begins inside the entity
      have hkept : lower (name ++ escape t) = name ++ lower (escape t) := by
        have happend := lowerAfter_append (escape t) (fun c hc before after =>
          lowerBetween_of_mem_entity hmem before after (hname ▸ List.mem_cons_of_mem _ hc)) []
        rw [lower, happend, lower_escape]
        exact congrArg (name ++ ·) (lowerAfter_escape t (meetsCased_reverse_append hmem hname []))
      rw [escape_cons, escapeChar_of_mem_table hmem, (caseless_of_mem_table hmem).2,
        escape_singleton, escapeChar_of_mem_table hmem, hname, List.cons_append, capitalize, hamp,
        hkept, List.singleton_append, List.cons_append]
    · rw [escape_cons_of_unmarked hc, capitalize, escape_eq_self (unmarked_upperOf hc)]

/-! ## Upper case of an escaped form -/

theorem upper_append (a b : Text) : upper (a ++ b) = upper a ++ upper b := List.flatMap_append

theorem unmarked_upper {t : Text} (h : Unmarked t) : Unmarked (upper t) := by
  intro d hd
  obtain ⟨c, hc, hd⟩ := List.mem_flatMap.mp hd
  exact unmarked_upperOf (h.of_mem hc) d hd

/-- The capital letter behind the `&` is none with which an entity goes on. -/
theorem not_isPrefix_upper_append {entity : Char × Text} (h : entity ∈ table) (t : Text) :
    ¬ ∃ e ∈ table, e.2 <+: upper entity.2 ++ t := by
  rintro ⟨e, he, rest, hrest⟩
  have hlong : ∀ e ∈ table, 2 ≤ e.2.length ∧ 2 ≤ (upper e.2).length := by decide +kernel
  have hdiffer : ∀ e ∈ table, ∀ other ∈ table, other.2.take 2 ≠ (upper e.2).take 2 := by
    decide +kernel
  have hstart := congrArg (List.take 2) hrest
  rw [List.take_append_of_le_length (hlong e he).1,
    List.take_append_of_le_length (hlong entity h).2] at hstart
  exact hdiffer entity h e he hstart

end Text

namespace SafeText

/-- Lower case and capitalizing commute with escaping: it makes no difference whether a text is
escaped before or after its case is changed.  Capitalizing is upper case of the first character and
lower case of the rest, taken as a text of its own. -/
theorem lower_escape_and_capitalize_escape (t : Text) :
    (escape t).lower = escape t.lower ∧
    (escape t).capitalize = escape (Text.upper (t.take 1) ++ Text.lower (t.drop 1)) := by
  refine ⟨congrArg trusted (Text.lower_escape t), congrArg trusted ?_⟩
  rw [← Text.capitalize_eq]
  exact Text.capitalize_escape t

/-- The sigma before `<` ends a word, and the one behind it begins one. -/
example : (escape "ΑΣ<ΣΑ".toList).lower = escape "ας<σα".toList := by decide +kernel

/-- Upper case keeps a well-escaped text well-escaped exactly if there is no entity in it. -/
theorem upper_wellEscaped_iff {s : SafeText} (h : WellEscaped s.buffer) :
    WellEscaped s.upper.buffer ↔ '&' ∉ s.buffer := by
  constructor
  · intro hupper hamp
    obtain ⟨before, after, heq⟩ := List.append_of_mem hamp
    obtain ⟨entity, hmem, rest, hrest⟩ := h.2 before after heq
    have hbuffer :
        s.upper.buffer = Text.upper before ++ (Text.upper entity.2 ++ Text.upper rest) := by
      rw [← Text.upper_append, hrest, ← Text.upper_append, ← heq]
      rfl
    rw [hbuffer] at hupper
    obtain ⟨name, hname, -⟩ := exists_cons_of_mem_table hmem
    have hupperAmp : Text.upper ('&' :: name) = '&' :: Text.upper name := by
      have hself : upperOf '&' = ['&'] := by decide +kernel
      rw [Text.upper, List.flatMap_cons, hself]
      rfl
    refine Text.not_isPrefix_upper_append hmem (Text.upper rest) ?_
    rw [hname, hupperAmp, List.cons_append]
    rw [hname, hupperAmp, List.cons_append] at hupper
    exact hupper.of_append.2 [] _ rfl
  · intro hamp
    refine wellEscaped_of_unmarked (Text.unmarked_upper fun c hc => ⟨?_, h.1 c hc⟩)
    rintro rfl
    exact hamp hc

/-- A text without entities may become longer in upper case. -/
theorem upper_wellEscaped_iff_sharp_s :
    WellEscaped "a;ß".toList ∧ WellEscaped (trusted "a;ß".toList).upper.buffer ∧
    (trusted "a;ß".toList).upper.buffer = "A;SS".toList := by
  have hwhole : WellEscaped (trusted "a;ß".toList).buffer := wellEscaped_of_unmarked (by decide)
  exact ⟨hwhole, (upper_wellEscaped_iff hwhole).mpr (by decide), by decide +kernel⟩

/-- The entity of an `&` has no upper case. -/
theorem upper_entity_of_ampersand :
    WellEscaped (escape ['&']).buffer ∧ (escape ['&']).upper = trusted "&AMP;".toList ∧
    ¬ WellEscaped "&AMP;".toList := by
  have hnone : ¬ ∃ e ∈ table, e.2 <+: "&AMP;".toList := by decide
  exact ⟨wellEscaped_escape _, by decide +kernel, fun hwhole => hnone (hwhole.2 [] _ rfl)⟩

end SafeText

end EscapeOnce
