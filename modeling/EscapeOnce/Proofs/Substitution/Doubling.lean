import EscapeOnce.Proofs.Substitution.Fill

/-!
# Doubled delimiters

A brace or a percent sign that is written twice stands for itself.  Both readers of templates work
alike here: a delimiter opens a directive unless it is doubled, and any other character is literal
text (`Script.Doubles`).  From this alone it follows that a text with its delimiters doubled is read
as that text, and that nothing else is (`Script.Doubles.script_eq_behind_iff`).  The pairs are taken
from the left, so a run of an odd number of delimiters ends in one that is not doubled.

A directive needs an argument, and where there is none it cannot be filled in.  So what can be
filled in without arguments is the doubled form of what comes out (`substitute_doubled`).
-/

namespace EscapeOnce

open Outcome

namespace Text

variable {isDelimiter : Char → Bool}

/-- The text with every delimiter written twice. -/
def doubled (isDelimiter : Char → Bool) (t : Text) : Text :=
  t.flatMap fun c => if isDelimiter c then [c, c] else [c]

/-- The text with every doubled delimiter written once; the pairs are taken from the left. -/
def collapsed (isDelimiter : Char → Bool) : Text → Text
  | [] => []
  | [c] => [c]
  | c :: d :: t =>
    if isDelimiter c && c == d then c :: collapsed isDelimiter t
    else c :: collapsed isDelimiter (d :: t)

theorem doubled_cons_of_delimiter {c : Char} (h : isDelimiter c = true) (t : Text) :
    doubled isDelimiter (c :: t) = c :: c :: doubled isDelimiter t := by
  rw [doubled, List.flatMap_cons, if_pos h]
  rfl

theorem doubled_cons_of_not {c : Char} (h : isDelimiter c = false) (t : Text) :
    doubled isDelimiter (c :: t) = c :: doubled isDelimiter t := by
  rw [doubled, List.flatMap_cons, if_neg (by rw [h]; exact Bool.false_ne_true)]
  rfl

theorem doubled_append (t u : Text) :
    doubled isDelimiter (t ++ u) = doubled isDelimiter t ++ doubled isDelimiter u :=
  List.flatMap_append

/-- Collapsing undoes doubling. -/
theorem collapsed_doubled (t : Text) : collapsed isDelimiter (doubled isDelimiter t) = t := by
  induction t with
  | nil => rfl
  | cons c t ih =>
    cases hc : isDelimiter c with
    | true => rw [doubled_cons_of_delimiter hc, collapsed, if_pos (by simp [hc]), ih]
    | false =>
      rw [doubled_cons_of_not hc]
      generalize doubled isDelimiter t = u at ih ⊢
      cases u with
      | nil => exact congrArg (c :: ·) ih
      | cons d u => rw [collapsed, if_neg (by simp [hc]), ih]

end Text

/-! ## Readers that take doubled delimiters as literal text -/

namespace Script

variable {δ : Type}

theorem directives_behind (run : Text) (rest : Script δ) :
    (rest.behind run).directives = rest.directives := by
  induction run with
  | nil => rfl
  | cons c run ih => exact ih

/-- The reader opens a directive at each delimiter that is not doubled, and reads everything else as
literal text. -/
structure Doubles (isDelimiter : Char → Bool) (script : Text → Script δ) : Prop where
  nil : script [] = .done
  pair : ∀ c t, isDelimiter c = true → script (c :: c :: t) = .literal c (script t)
  plain : ∀ c t, isDelimiter c = false → script (c :: t) = .literal c (script t)
  single : ∀ c t, isDelimiter c = true → t.head? ≠ some c →
    (∃ e, script (c :: t) = .fault e) ∨ ∃ d rest, script (c :: t) = .directive d rest

namespace Doubles

variable {isDelimiter : Char → Bool} {script : Text → Script δ} (h : Doubles isDelimiter script)
include h

/-- A text with its delimiters doubled is read as literal text. -/
theorem script_doubled (t : Text) : script (t.doubled isDelimiter) = done.behind t := by
  induction t with
  | nil => exact h.nil
  | cons c t ih =>
    cases hc : isDelimiter c with
    | true => rw [Text.doubled_cons_of_delimiter hc, h.pair c _ hc, ih]; rfl
    | false => rw [Text.doubled_cons_of_not hc, h.plain c _ hc, ih]; rfl

/-- A template that is not empty begins with a character as it is doubled, or else with a directive,
or it cannot be read. -/
theorem script_cases (template : Text) :
    template = [] ∨
    (∃ c t, template = Text.doubled isDelimiter [c] ++ t ∧
      script template = .literal c (script t)) ∨
    (∃ e, script template = .fault e) ∨ ∃ d rest, script template = .directive d rest := by
  cases template with
  | nil => exact .inl rfl
  | cons c t =>
    refine .inr ?_
    cases hc : isDelimiter c with
    | false => exact .inl ⟨c, t, by rw [Text.doubled_cons_of_not hc]; rfl, h.plain c t hc⟩
    | true =>
      by_cases hpair : t.head? = some c
      · obtain ⟨u, rfl⟩ := List.head?_eq_some_iff.mp hpair
        exact .inl ⟨c, u, by rw [Text.doubled_cons_of_delimiter hc]; rfl, h.pair c u hc⟩
      · exact .inr (h.single c t hc hpair)

/-- Only a text with its delimiters doubled is read as literal text. -/
theorem eq_doubled_of_script_eq_behind {template out : Text}
    (hread : script template = done.behind out) : template = out.doubled isDelimiter := by
  induction out generalizing template with
  | nil =>
    rcases h.script_cases template with rfl | ⟨c, t, -, hliteral⟩ | ⟨e, hfault⟩ | ⟨d, rest, hfirst⟩
    · rfl
    · cases hliteral.symm.trans hread
    · cases hfault.symm.trans hread
    · cases hfirst.symm.trans hread
  | cons b out ih =>
    rcases h.script_cases template with rfl | ⟨c, t, ht, hliteral⟩ | ⟨e, hfault⟩ | ⟨d, rest, hfirst⟩
    · cases h.nil.symm.trans hread
    · obtain ⟨rfl, hrest⟩ := literal.inj (hliteral.symm.trans hread)
      rw [ht, ih hrest, ← Text.doubled_append, List.singleton_append]
    · cases hfault.symm.trans hread
    · cases hfirst.symm.trans hread

/-- What is read as literal text is a text with its delimiters doubled. -/
theorem script_eq_behind_iff {template out : Text} :
    script template = done.behind out ↔ template = out.doubled isDelimiter :=
  ⟨h.eq_doubled_of_script_eq_behind, fun ht => ht ▸ h.script_doubled out⟩

end Doubles

end Script

/-! ## Fields -/

namespace Field

/-- The delimiters of fields. -/
def isBrace (c : Char) : Bool := c == '{' || c == '}'

theorem doubles_script : Script.Doubles isBrace script where
  nil := by rw [script]
  pair := by
    intro c t hc
    rw [isBrace, Bool.or_eq_true, beq_iff_eq, beq_iff_eq] at hc
    rcases hc with rfl | rfl <;> rw [script]
  plain := by
    intro c t hc
    rw [isBrace, Bool.or_eq_false_iff, beq_eq_false_iff_ne, beq_eq_false_iff_ne] at hc
    exact script_cons_of_ne hc.1 hc.2 t
  single := by
    intro c t hc hhead
    rw [isBrace, Bool.or_eq_true, beq_iff_eq, beq_iff_eq] at hc
    rcases hc with rfl | rfl
    · cases hcut : cutBody .name t with
      | error e => exact .inl ⟨e, script_of_cutBody_eq_error hhead hcut⟩
      | ok cut =>
        rw [script_of_cutBody_eq_ok hcut]
        cases parse cut.1 with
        | error e => exact .inl ⟨e, rfl⟩
        | ok field => exact .inr ⟨field, _, rfl⟩
    · exact .inl ⟨_, script_close hhead⟩

end Field

namespace Brace

/-- Where there are no arguments a field has none. -/
theorem argument_nil (numbering : Numbering) (name : ArgumentName) :
    ∃ e, argument [] [] numbering name = .error e := by
  cases name <;> cases numbering <;> exact ⟨_, rfl⟩

/-- What is filled in without arguments is literal text. -/
theorem eq_behind_of_fill_nil {render : Value → Field → Except MarkupError Text}
    {numbering : Numbering} {script : Script Field} {out : Text}
    (h : fill render [] [] numbering script = .ok out) : script = Script.done.behind out := by
  induction script generalizing out with
  | done =>
    cases h
    rfl
  | fault e => cases h
  | literal c rest ih =>
    rw [fill_literal] at h
    obtain ⟨others, hothers, rfl⟩ := map_eq_ok.mp h
    rw [ih hothers]
    rfl
  | directive field rest =>
    obtain ⟨v, after, first, others, hargument, -⟩ := (fill_directive_eq_ok ..).mp h
    obtain ⟨e, he⟩ := argument_nil numbering field.argument
    cases he.symm.trans hargument

end Brace

/-! ## Directives -/

namespace Directive

/-- The delimiter of directives. -/
def isPercent (c : Char) : Bool := c == '%'

theorem doubles_script : Script.Doubles isPercent script where
  nil := by rw [script]
  pair := by
    intro c t hc
    obtain rfl := beq_iff_eq.mp hc
    rw [script]
  plain := fun c t hc => script_cons_of_ne (beq_eq_false_iff_ne.mp hc) t
  single := by
    intro c t hc hhead
    obtain rfl := beq_iff_eq.mp hc
    cases hparse : parse t with
    | error e => exact .inl ⟨e, script_of_parse_eq_error hhead hparse⟩
    | ok read => exact .inr ⟨read.1, _, script_of_parse_eq_ok hhead hparse⟩

end Directive

namespace Percent

/-- What is filled in without positional arguments is literal text. -/
theorem eq_behind_of_fill_nil {render : Value → Directive → Except MarkupError Text}
    {script : Script Directive} {out : Text} (h : fill render (.positional []) script = .ok out) :
    script = Script.done.behind out := by
  induction script generalizing out with
  | done =>
    cases h
    rfl
  | fault e => cases h
  | literal c rest ih =>
    rw [fill_literal] at h
    obtain ⟨others, hothers, rfl⟩ := map_eq_ok.mp h
    rw [ih hothers]
    rfl
  | directive d rest =>
    obtain ⟨v, after, first, others, hargument, -⟩ := (fill_directive_eq_ok ..).mp h
    cases hkey : d.key <;> rw [hkey] at hargument <;> cases hargument

end Percent

/-! ## Substitution -/

/-- Every text can be written as a template of either style by doubling its delimiters, and whatever
the arguments are it is filled in as the text; percent templates take no positional argument then.
A template that can be filled in without arguments has no field or directive, and it is the doubled
form of what comes out. -/
theorem substitute_doubled :
    (∀ (t : Text) (args : List Value) (named : Dict Value),
      Brace.substitute (t.doubled Field.isBrace) args named = .ok t) ∧
    (∀ t : Text, Percent.substitute (t.doubled Directive.isPercent) (.positional []) = .ok t) ∧
    (∀ (t : Text) (entries : Dict Value),
      Percent.substitute (t.doubled Directive.isPercent) (.named entries) = .ok t) ∧
    (∀ template out : Text, Brace.substitute template [] [] = .ok out →
      (Field.script template).directives = [] ∧ out = template.collapsed Field.isBrace ∧
      template = out.doubled Field.isBrace) ∧
    (∀ template out : Text, Percent.substitute template (.positional []) = .ok out →
      (Directive.script template).directives = [] ∧ out = template.collapsed Directive.isPercent ∧
      template = out.doubled Directive.isPercent) := by
  refine ⟨fun t args named => ?_, fun t => ?_, fun t entries => ?_, fun template out h => ?_,
    fun template out h => ?_⟩
  · rw [Brace.substitute, Field.doubles_script.script_doubled, Brace.fill_behind]
    exact congrArg Except.ok (List.append_nil t)
  · rw [Percent.substitute, Directive.doubles_script.script_doubled, Percent.fill_behind]
    exact congrArg Except.ok (List.append_nil t)
  · rw [Percent.substitute, Directive.doubles_script.script_doubled, Percent.fill_behind]
    exact congrArg Except.ok (List.append_nil t)
  · have hread := Brace.eq_behind_of_fill_nil h
    have htemplate := Field.doubles_script.script_eq_behind_iff.mp hread
    exact ⟨by rw [hread, Script.directives_behind]; rfl,
      by rw [htemplate, Text.collapsed_doubled], htemplate⟩
  · have hread := Percent.eq_behind_of_fill_nil h
    have htemplate := Directive.doubles_script.script_eq_behind_iff.mp hread
    exact ⟨by rw [hread, Script.directives_behind]; rfl,
      by rw [htemplate, Text.collapsed_doubled], htemplate⟩

/-- Three braces in a row and a percent sign: each style doubles its own delimiters only. -/
theorem substitute_doubled_mixed :
    Brace.substitute "\x7b\x7b\x7d\x7d\x7d\x7d%".toList [] [] = .ok "\x7b\x7d\x7d%".toList ∧
    (Field.script "\x7b\x7b\x7d\x7d\x7d\x7d%".toList).directives = [] ∧
    Percent.substitute "\x7b\x7d\x7d%%".toList (.positional []) = .ok "\x7b\x7d\x7d%".toList ∧
    (Directive.script "\x7b\x7d\x7d%%".toList).directives = [] := by
  have hbrace := substitute_doubled.1 "\x7b\x7d\x7d%".toList [] []
  have hpercent := substitute_doubled.2.1 "\x7b\x7d\x7d%".toList
  exact ⟨hbrace, (substitute_doubled.2.2.2.1 _ _ hbrace).1, hpercent,
    (substitute_doubled.2.2.2.2 _ _ hpercent).1⟩

end EscapeOnce
