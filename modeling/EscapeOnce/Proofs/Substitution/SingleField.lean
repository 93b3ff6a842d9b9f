import EscapeOnce.Proofs.Substitution.Fill
import EscapeOnce.Proofs.Substitution.Plain
import EscapeOnce.Proofs.Template.WrittenField

/-!
# One value in one field

A template of a single field without an argument name, on a single value, is the reading of its
specifier followed by the layout of the value (`Brace.substitute_fieldText`).  This holds for every
specifier text in which there is no brace: behind the colon brackets, exclamation marks and further
colons have no meaning to the field, and the text reaches the specifier reader as it is.

Formatting a value alone does the same without a template.  Its shortcut, which makes the safe form
of the value and reads no specifier, agrees because a specifier that asks for nothing changes
neither a text nor a number.
-/

namespace EscapeOnce

open Outcome

namespace Brace

/-- A template of one field, with a conversion and the text of a specifier. -/
def fieldText (conversion : Option Form) (specifier : Text) : Text :=
  '{' :: (conversionText conversion ++ ':' :: specifier) ++ ['}']

/-- What `fieldText` reads back as, with the layout that its specifier denotes. -/
def soleField (conversion : Option Form) (layout : Specifier) : Field where
  argument := .automatic
  accessors := []
  conversion := conversion
  specifier := layout

section

variable (conversion : Option Form) {specifier : Text} (hopen : '{' ∉ specifier)
  (hclose : '}' ∉ specifier)
include hopen hclose

/-- A template of one field is that field, or cannot be read where its specifier cannot. -/
theorem script_fieldText :
    Field.script (fieldText conversion specifier) =
      match Specifier.parse specifier with
      | .error e => .fault e
      | .ok layout => .directive (soleField conversion layout) .done := by
  have hbraces : ∀ t ∈ some specifier, '{' ∉ t ∧ '}' ∉ t := by
    rintro t ⟨⟩
    exact ⟨hopen, hclose⟩
  have hcut := Field.cutBody_tailText conversion hbraces []
  have hsplit := Field.splitBody_tailText conversion (some specifier)
  have hnone : Field.readAccessors (([] : Text).dropWhile (!Field.beginsAccessor ·)) = .ok [] := by
    rw [List.dropWhile_nil, Field.readAccessors]
  have htext : fieldText conversion specifier =
      '{' :: (Field.tailText conversion (some specifier) ++ ['}']) := rfl
  rw [htext, Field.script_of_cutBody_eq_ok hcut, Field.parse_eq_map hsplit hnone, Field.script,
    Option.getD_some]
  cases Specifier.parse specifier <;> rfl

/-- A template of one field, on one value, reads its specifier and lays out the value. -/
theorem substitute_fieldText (v : Value) (named : Dict Value) :
    substitute (fieldText conversion specifier) [v] named =
      MarkupError.ofFormat (Specifier.parse specifier) >>= fun layout =>
        (Operand.ofValue v).render conversion layout := by
  rw [substitute, script_fieldText conversion hopen hclose]
  cases Specifier.parse specifier with
  | error e => rfl
  | ok layout =>
    show fill renderField [v] named .unset (.directive (soleField conversion layout) .done) = _
    rw [fill_sole_directive]
    rfl

end

end Brace

/-- The safe form of a value is the layout of the value by a specifier that asks for nothing. -/
theorem Value.toSafe_eq_map_render (v : Value) :
    v.toSafe = ((Operand.ofValue v).render none .plain).map .trusted := by
  rw [Operand.render_plain, Operand.toText_ofValue_eq_toSafe, map_map]
  cases v.toSafe <;> rfl

/-- A value formatted alone, under a conversion and a specifier without braces, is what a template
of one such field makes of it, and where the one fails the other fails in the same way.  Without
either it is the safe form of the value, and that too is what the template makes of it. -/
theorem formatField_eq_map_substitute (v : Value) (conversion : Option Form) (specifier : Text)
    (hopen : '{' ∉ specifier) (hclose : '}' ∉ specifier) (named : Dict Value) :
    formatField v conversion specifier =
        (Brace.substitute (Brace.fieldText conversion specifier) [v] named).map .trusted ∧
      formatField v none [] = v.toSafe := by
  refine ⟨?_, rfl⟩
  rw [Brace.substitute_fieldText conversion hopen hclose, map_bind, formatField]
  split
  case isTrue hplain =>
    rw [Bool.and_eq_true, Option.isNone_iff_eq_none, List.isEmpty_iff] at hplain
    obtain ⟨rfl, rfl⟩ := hplain
    exact v.toSafe_eq_map_render
  case isFalse =>
    refine bind_congr fun layout _ => ?_
    cases (Operand.ofValue v).render conversion layout <;> rfl

/-- An exclamation mark as the fill of a quoted angle bracket. -/
theorem formatField_eq_map_substitute_filled :
    ('{' ∉ "!>6".toList ∧ '}' ∉ "!>6".toList) ∧
    formatField (.str ['<']) (some .representation) "!>6".toList =
      (Brace.substitute "{!r:!>6}".toList [.str ['<']] []).map .trusted ∧
    formatField (.str ['<']) (some .representation) "!>6".toList =
      .ok (.trusted "!!!&quot;&lt;&quot;".toList) :=
  ⟨⟨by decide, by decide⟩,
    (formatField_eq_map_substitute _ _ _ (by decide) (by decide) []).1, by decide +kernel⟩

end EscapeOnce
