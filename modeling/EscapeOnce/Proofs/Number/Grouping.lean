import EscapeOnce.Proofs.Number.Bases
import EscapeOnce.Proofs.Text.Begins
import Mathlib.Data.List.Flatten

/-!
# Where the commas of a numeral stand

Whether a comma stands behind a digit is decided by the number of digits that are still to come, and
by nothing else.  So the groups are counted from the end of the run of digits, although it is
written from its beginning, and only the first group may be short.

A `Grouping` is what the digits are in groups, whoever has found them: a first group of at most
three digits and behind it groups of exactly three.  Its text has a comma before each group but the
first.  A run of digits has one grouping (`exists_grouping`) and no other, since its length leaves
no choice for that of the first group (`Grouping.eq_of_digits_eq`).  What follows the run, a
fraction or an exponent or a percent sign, is not looked at (`grouped_eq_append`).
-/

namespace EscapeOnce.Numeral

open Text

/-- Digits in groups of three.  The first group may be shorter, and it is empty only if there are no
digits. -/
@[ext] structure Grouping where
  first : Text
  others : List Text
  short : first.length ≤ 3
  full : ∀ group ∈ others, group.length = 3
  alone : first = [] → others = []

namespace Grouping

variable (g : Grouping)

/-- The digits of all groups. -/
def digits : Text := g.first ++ g.others.flatten

/-- The digits with a comma before each group but the first. -/
def text : Text := g.first ++ g.others.flatMap (',' :: ·)

/-! ## Counting -/

theorem length_digits : g.digits.length = g.first.length + 3 * g.others.length := by
  rw [digits, List.length_append, List.length_flatten, List.map_eq_replicate_iff.mpr g.full,
    List.sum_replicate_nat, Nat.mul_comm]

/-- Behind an empty group there is none. -/
theorem length_others_eq_zero (h : g.first.length = 0) : g.others.length = 0 := by
  rw [g.alone (List.eq_nil_of_length_eq_zero h), List.length_nil]

theorem count_comma_flatMap {groups : List Text} (h : ',' ∉ groups.flatten) :
    (groups.flatMap (',' :: ·)).count ',' = groups.length := by
  induction groups with
  | nil => rfl
  | cons group groups ih =>
    rw [List.flatten_cons, List.mem_append, not_or] at h
    rw [List.flatMap_cons, List.count_append, List.count_cons_self,
      List.count_eq_zero_of_not_mem h.1, ih h.2, List.length_cons, Nat.zero_add, Nat.add_comm]

/-- The number of commas is that of the groups, of which a short one counts as one, less the
first. -/
theorem count_comma_text (hdigits : ',' ∉ g.digits) (hne : g.digits ≠ []) :
    g.text.count ',' = (g.digits.length + 2) / 3 - 1 := by
  have hpos := List.length_pos_of_ne_nil hne
  have hshort := g.short
  have hempty := g.length_others_eq_zero
  rw [g.length_digits] at hpos ⊢
  rw [digits, List.mem_append, not_or] at hdigits
  rw [text, List.count_append, List.count_eq_zero_of_not_mem hdigits.1,
    count_comma_flatMap hdigits.2]
  omega

/-- The digits leave no choice for the groups. -/
theorem eq_of_digits_eq {g h : Grouping} (hdigits : g.digits = h.digits) : g = h := by
  have hlength := congrArg List.length hdigits
  rw [g.length_digits, h.length_digits] at hlength
  -- both first groups have one to three digits and leave the same remainder, or there are no digits
  have hfirst : g.first.length = h.first.length := by
    have := g.short
    have := h.short
    have := g.length_others_eq_zero
    have := h.length_others_eq_zero
    omega
  obtain ⟨hsame, hflatten⟩ := List.append_inj hdigits hfirst
  have hcount : g.others.length = h.others.length := by omega
  have hlengths : g.others.map List.length = h.others.map List.length := by
    rw [List.map_eq_replicate_iff.mpr g.full, List.map_eq_replicate_iff.mpr h.full, hcount]
  exact Grouping.ext hsame (List.eq_iff_flatten_eq.mpr ⟨hflatten, hlengths⟩)

/-! ## One more digit -/

/-- The grouping with one more digit in front.  It joins the first group, unless that is full. -/
def cons (c : Char) : Grouping :=
  if hfull : g.first.length = 3 then
    { first := [c]
      others := g.first :: g.others
      short := by simp
      full := List.forall_mem_cons.mpr ⟨hfull, g.full⟩
      alone := nofun }
  else
    { first := c :: g.first
      others := g.others
      short := Nat.lt_of_le_of_ne g.short hfull
      full := g.full
      alone := nofun }

theorem digits_cons (c : Char) : (g.cons c).digits = c :: g.digits := by
  rw [cons]
  split <;> rfl

theorem text_cons (c : Char) :
    (g.cons c).text = if g.first.length = 3 then c :: ',' :: g.text else c :: g.text := by
  rw [cons]
  split <;> rfl

/-- The first group is full exactly if there are digits and their number is a multiple of three. -/
theorem length_first_eq_three_iff :
    g.first.length = 3 ↔ g.digits ≠ [] ∧ g.digits.length % 3 = 0 := by
  have hshort := g.short
  have hempty := g.length_others_eq_zero
  rw [← List.length_pos_iff, g.length_digits]
  omega

end Grouping

/-! ## Numerals -/

/-- The program sets the commas of a grouping, whatever the number of digits. -/
theorem exists_grouping (digits : Text) :
    ∃ g : Grouping, g.digits = digits ∧ groupDigits digits = g.text := by
  induction digits with
  | nil => exact ⟨⟨[], [], Nat.zero_le 3, nofun, fun _ => rfl⟩, rfl, rfl⟩
  | cons c digits ih =>
    obtain ⟨g, rfl, hg⟩ := ih
    refine ⟨g.cons c, g.digits_cons c, ?_⟩
    rw [groupDigits, g.text_cons, hg]
    refine if_congr ?_ rfl rfl
    rw [g.length_first_eq_three_iff, Bool.and_eq_true, Bool.not_eq_true', List.isEmpty_eq_false_iff,
      beq_iff_eq]

/-- The digits that a numeral begins with are written in groups, in the one way there is, and what
follows them stays as it is.  Without its commas the grouped form is the run of digits; the first
group is empty only if the run is; and there are as many commas as groups of three behind the first
group. -/
theorem grouped_eq_append {digits rest : Text} (hdigits : ∀ c ∈ digits, c.isDigit = true)
    (hrest : Begins (·.isDigit = false) rest) :
    ∃ g : Grouping, grouped (digits ++ rest) = g.text ++ rest ∧ g.digits = digits ∧
      (∀ h : Grouping, h.digits = digits → h = g) ∧
      g.text.filter (· ≠ ',') = digits ∧ (g.first = [] ↔ digits = []) ∧
      (digits ≠ [] → g.text.count ',' = (digits.length + 2) / 3 - 1) := by
  have hcomma : ',' ∉ digits := fun h => absurd (hdigits ',' h) (by decide)
  obtain ⟨g, rfl, hg⟩ := exists_grouping digits
  refine ⟨g, ?_, rfl, fun h hsame => Grouping.eq_of_digits_eq hsame, ?_, ?_,
    g.count_comma_text hcomma⟩
  · rw [grouped, leadingDigits, afterDigits, takeWhile_append_of_begins hdigits hrest,
      dropWhile_append_of_begins hdigits hrest, hg]
  · rw [← hg, filter_groupDigits, List.filter_eq_self]
    intro c hc
    rw [decide_eq_true_eq]
    rintro rfl
    exact hcomma hc
  · constructor
    · intro hfirst
      rw [Grouping.digits, hfirst, g.alone hfirst]
      rfl
    · exact fun hnone => (List.append_eq_nil_iff.mp hnone).1

/-- Seven digits are three groups, and the digits of the fraction are in none of them. -/
theorem grouped_eq_append_fraction :
    (∀ c ∈ "1234567".toList, c.isDigit = true) ∧ Begins (·.isDigit = false) ".5000%".toList ∧
    grouped "1234567.5000%".toList = "1,234,567.5000%".toList ∧
    "1,234,567".toList.count ',' = ("1234567".toList.length + 2) / 3 - 1 := by
  have hdigits : ∀ c ∈ "1234567".toList, c.isDigit = true := List.all_eq_true.mp (by decide)
  have hrest : Begins (·.isDigit = false) ".5000%".toList := begins_cons.mpr (by decide)
  obtain ⟨g, hgrouped, -, hunique, -, -, hcount⟩ := grouped_eq_append hdigits hrest
  obtain rfl := hunique ⟨"1".toList, ["234".toList, "567".toList], by decide, by decide, nofun⟩ rfl
  exact ⟨hdigits, hrest, hgrouped, hcount (List.cons_ne_nil _ _)⟩

end EscapeOnce.Numeral
