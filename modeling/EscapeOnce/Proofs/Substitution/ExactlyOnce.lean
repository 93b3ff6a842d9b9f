import EscapeOnce.Proofs.Substitution.Fill
import EscapeOnce.Proofs.Substitution.Operand
import EscapeOnce.Proofs.Template.Reading

/-!
# Substitution escapes exactly once

Filling in a template with texts that are fit for a page is filling it in with raw texts and then
escaping the whole: a value is escaped once, at the place where it is substituted, and nothing else
is (`substitute_eq_map_escape_substituteRaw`).  Both placeholder styles have this property, and both
fail exactly where the raw substitution fails, with its error.

Three things stand outside the comparison.  A template that holds markup of its own keeps it, where
the raw substitution would have it escaped; the same goes for a fill character; and a safe text is
not escaped at all.  So the template and its fill characters are unmarked here, and no field reaches
a safe text.  Only the fields that are come to matter: what an argument holds elsewhere is free.
-/

namespace EscapeOnce

open Entity Outcome

/-- Filling in what is left of a template of fields escapes what the raw fields give. -/
theorem Brace.fill_eq_map_escape (args : List Value) (named : Dict Value) (script : Script Field)
    (numbering : Numbering) (hliterals : Unmarked script.literals)
    (hfill : ∀ field ∈ script.directives, ∀ c ∈ field.specifier.fill, Unmarked [c])
    (hsafe : ∀ w, LooksUp renderFieldRaw args named numbering script w → w.isSafe = false) :
    fill renderField args named numbering script =
      (fill renderFieldRaw args named numbering script).map escape := by
  induction script generalizing numbering with
  | done => rfl
  | fault error => rfl
  | literal c rest ih =>
    obtain ⟨hc, hrest⟩ := unmarked_cons.mp hliterals
    rw [fill_literal, fill_literal, ih numbering hrest hfill fun w hw =>
      hsafe w (.behindLiteral hw), map_map, map_map]
    exact map_congr fun t _ => (escape_cons_of_unmarked hc t).symm
  | directive field rest ih =>
    rw [fill_directive, fill_directive, map_bind]
    refine bind_congr fun found hfound => ?_
    obtain ⟨v, after⟩ := found
    have hargument := MarkupError.ofFormat_eq_ok.mp hfound
    have hfirst : renderField v field = (renderFieldRaw v field).map escape :=
      renderField_eq_map_escape (hfill field List.mem_cons_self) fun w hw =>
        hsafe w (.here hargument hw)
    rw [hfirst, bind_map, map_bind]
    refine bind_congr fun first hrendered => ?_
    rw [ih after hliterals (fun f hf => hfill f (List.mem_cons_of_mem _ hf)) fun w hw =>
      hsafe w (.behindField hargument hrendered hw), map_map, map_map]
    exact map_congr fun t _ => (escape_append first t).symm

/-- Filling in what is left of a template of directives escapes what the raw directives give. -/
theorem Percent.fill_eq_map_escape (script : Script Directive) (args : Arguments)
    (hliterals : Unmarked script.literals)
    (hsafe : ∀ w, LooksUp renderDirectiveRaw args script w → w.isSafe = false) :
    fill renderDirective args script = (fill renderDirectiveRaw args script).map escape := by
  induction script generalizing args with
  | done =>
    rw [fill, fill, map_bind]
    rfl
  | fault error => rfl
  | literal c rest ih =>
    obtain ⟨hc, hrest⟩ := unmarked_cons.mp hliterals
    rw [fill_literal, fill_literal, ih args hrest fun w hw => hsafe w (.behindLiteral hw), map_map,
      map_map]
    exact map_congr fun t _ => (escape_cons_of_unmarked hc t).symm
  | directive d rest ih =>
    rw [fill_directive, fill_directive, map_bind]
    refine bind_congr fun found hfound => ?_
    obtain ⟨v, after⟩ := found
    have hargument := MarkupError.ofFormat_eq_ok.mp hfound
    have hfirst : renderDirective v d = (renderDirectiveRaw v d).map escape :=
      d.render_ofValue (hsafe v (.here hargument))
    rw [hfirst, bind_map, map_bind]
    refine bind_congr fun first hrendered => ?_
    rw [ih after hliterals fun w hw => hsafe w (.behindDirective hargument hrendered hw), map_map,
      map_map]
    exact map_congr fun t _ => (escape_append first t).symm

/-- Substitution escapes what it would substitute raw, exactly once, in both placeholder styles: it
succeeds when the raw substitution does and fails with its error otherwise. -/
theorem substitute_eq_map_escape_substituteRaw (template : Text) :
    (Unmarked (Field.script template).literals →
      (∀ field ∈ (Field.script template).directives, ∀ c ∈ field.specifier.fill, Unmarked [c]) →
      ∀ (args : List Value) (named : Dict Value),
        (∀ w, Brace.LooksUp Brace.renderFieldRaw args named .unset (Field.script template) w →
          w.isSafe = false) →
        Brace.substitute template args named =
          (Brace.substituteRaw template args named).map escape) ∧
    (Unmarked (Directive.script template).literals →
      ∀ args : Arguments,
        (∀ w, Percent.LooksUp Percent.renderDirectiveRaw args (Directive.script template) w →
          w.isSafe = false) →
        Percent.substitute template args = (Percent.substituteRaw template args).map escape) := by
  constructor
  · intro hliterals hfill args named hsafe
    exact Brace.fill_eq_map_escape args named _ _ hliterals hfill hsafe
  · intro hliterals args hsafe
    exact Percent.fill_eq_map_escape _ args hliterals hsafe

/-- The field `{0.k:*^6.2}`. -/
def centredField : Field where
  argument := .index 0
  accessors := [.name ['k']]
  conversion := none
  specifier := { Specifier.plain with
    fill := some '*', align := some .center, width := 6, precision := some 2 }

/-- The field `{n!r}`. -/
def shownField : Field where
  argument := .name ['n']
  accessors := []
  conversion := some .representation
  specifier := .plain

/-- The directive `%5.1s`. -/
def cutDirective : Directive where
  key := none
  left := false
  sign := none
  zero := false
  alternate := false
  width := 5
  precision := some 1
  conversion := 's'

/-- The directive `%c`. -/
def characterDirective : Directive where
  key := none
  left := false
  sign := none
  zero := false
  alternate := false
  width := 0
  precision := none
  conversion := 'c'

theorem script_centred_and_shown : Field.script "a{0.k:*^6.2}{n!r}".toList =
    .literal 'a' (.directive centredField (.directive shownField .done)) := by
  have hcentred : Field.parse "0.k:*^6.2".toList = .ok centredField := by
    have hsplit : Field.splitBody .name "0.k:*^6.2".toList =
        .ok ("0.k".toList, none, "*^6.2".toList) := rfl
    have haccessor : Field.readAccessors ".k".toList = .ok [.name ['k']] := by
      simp [Field.readAccessors, Field.beginsAccessor]
    exact Field.parse_eq_ok hsplit haccessor rfl
  have hshown : Field.parse "n!r".toList = .ok shownField := by
    have hsplit : Field.splitBody .name "n!r".toList = .ok (['n'], some .representation, []) := rfl
    have hnone : Field.readAccessors [] = .ok [] := by rw [Field.readAccessors]
    exact Field.parse_eq_ok hsplit hnone rfl
  have hlast : Field.script "{n!r}".toList = .directive shownField .done := by
    rw [← Field.script]
    exact Field.script_of_parse_eq_ok rfl hshown
  have hfirst : Field.script "{0.k:*^6.2}{n!r}".toList =
      .directive centredField (.directive shownField .done) := by
    rw [← hlast]
    exact Field.script_of_parse_eq_ok rfl hcentred
  rw [← hfirst]
  exact Field.script_append (by decide : '{' ∉ ['a']) (by decide) _

theorem script_cut_and_character : Directive.script "%5.1s=%c%%".toList =
    .directive cutDirective
      (.literal '=' (.directive characterDirective (.literal '%' .done))) := by
  have hcut : Directive.parse "5.1s=%c%%".toList = .ok (cutDirective, "=%c%%".toList) := rfl
  have hcharacter : Directive.parse "c%%".toList = .ok (characterDirective, "%%".toList) := rfl
  have hpercent : Directive.script ['%', '%'] = .literal '%' .done := by
    rw [Directive.script, Directive.script]
  have hlast : Directive.script "%c%%".toList =
      .directive characterDirective (.literal '%' .done) := by
    rw [← hpercent]
    exact Directive.script_of_parse_eq_ok (by decide) hcharacter
  have hbehind : Directive.script "=%c%%".toList =
      .literal '=' (.directive characterDirective (.literal '%' .done)) := by
    rw [← hlast]
    exact Directive.script_append (by decide : '%' ∉ ['=']) _
  rw [← hbehind]
  exact Directive.script_of_parse_eq_ok (by decide) hcut

set_option maxRecDepth 4000 in
/-- Markup in the arguments is escaped behind an accessor, under a cut and a centring, as a
character and in a diagnostic form.  A safe text inside a list is no exception in the last, since
the list is what is substituted. -/
theorem substitute_markup_in_arguments :
    Brace.substitute "a{0.k:*^6.2}{n!r}".toList [.map [("k".toList, .str "<&>".toList)]]
        [("n".toList, .list [.str ['"'], .safe (.trusted "<b>".toList)])] =
      .ok "a**&lt;&amp;**[&quot;\\&quot;&quot;, &lt;SafeText &quot;&lt;b&gt;&quot;&gt;]".toList ∧
    Percent.substitute "%5.1s=%c%%".toList (.positional [.str "<b".toList, .int 38]) =
      .ok "    &lt;=&amp;%".toList := by
  constructor
  · refine ((substitute_eq_map_escape_substituteRaw _).1 ?_ ?_ _ _ ?_).trans ?_
    · rw [script_centred_and_shown]
      decide
    · rw [script_centred_and_shown]
      intro field hfield c hc
      obtain rfl | rfl := List.mem_pair.mp hfield
      · cases hc
        decide
      · cases hc
    · rw [script_centred_and_shown]
      rintro w (_ | hw | _)
      cases hw with
      | here found reached =>
        cases found
        cases reached
        rfl
      | behindField found _ later =>
        cases found
        cases later with
        | here found reached =>
          cases found
          cases reached
          rfl
        | behindField _ _ later => cases later
    · rw [Brace.substituteRaw, script_centred_and_shown]
      rfl
  · refine ((substitute_eq_map_escape_substituteRaw _).2 ?_ _ ?_).trans ?_
    · rw [script_cut_and_character]
      decide
    · rw [script_cut_and_character]
      intro w hw
      cases hw with
      | here found =>
        cases found
        rfl
      | behindDirective found _ later =>
        cases found
        cases later with
        | behindLiteral later =>
          cases later with
          | here found =>
            cases found
            rfl
          | behindDirective _ _ later =>
            cases later with
            | behindLiteral later => cases later
    · rw [Percent.substituteRaw, script_cut_and_character]
      rfl

end EscapeOnce
