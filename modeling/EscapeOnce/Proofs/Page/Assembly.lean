import EscapeOnce.Proofs.Page.Fragments
import EscapeOnce.Proofs.Substitution.Fill
import EscapeOnce.Proofs.Substitution.Plain
import EscapeOnce.Proofs.Template.Reading
import Mathlib.Data.List.Forall2

/-!
# All ways to a page lead to the same page

The page of a list of values, `pageOf`, can be put together by an accumulator, by a template of as
many empty fields as there are values, or by one of as many plain directives.  All three give the
page or fail as it does (`assemblies_agree`).

Where every value is raw or safe text, there are the operations on safe texts as well: joining them,
concatenating from the left or from the right, adding them up, collecting their safe forms.  Only
these operations refuse a number or a null, which a template takes.
-/

namespace EscapeOnce

open Entity Outcome

/-! ## Empty fields and plain directives -/

namespace Brace

/-- A field that asks for nothing. -/
def emptyField : Field where
  argument := .automatic
  accessors := []
  conversion := none
  specifier := .plain

theorem script_emptyField (t : Text) :
    Field.script ('{' :: '}' :: t) = .directive emptyField (Field.script t) := by
  have hcut : Field.cutBody .name ('}' :: t) = .ok ([], t) := rfl
  have hparse : Field.parse [] = .ok emptyField :=
    Field.parse_eq_ok rfl (by rw [List.dropWhile_nil, Field.readAccessors]) rfl
  exact Field.script_of_parse_eq_ok hcut hparse

/-- An empty field shows the safe form of its argument. -/
theorem renderField_emptyField (v : Value) :
    renderField v emptyField = v.toSafe.map SafeText.buffer := by
  rw [← Operand.toText_ofValue_eq_toSafe]
  exact Operand.render_plain (Operand.ofValue v)

/-- A template of empty fields, behind the positional arguments that have been taken already, shows
the page of the others. -/
theorem fill_emptyFields (named : Dict Value) (values before : List Value)
    (numbering : Numbering) (h : numbering.next = .ok before.length) :
    fill renderField (before ++ values) named numbering
        (Field.script (List.replicate values.length ['{', '}']).flatten) =
      (pageOf values).map SafeText.buffer := by
  induction values generalizing before numbering with
  | nil =>
    rw [List.length_nil, List.replicate_zero, List.flatten_nil, Field.script]
    rfl
  | cons v values ih =>
    have hargument : argument (before ++ v :: values) named numbering emptyField.argument =
        .ok (v, .automatic (before.length + 1)) := by
      have hv : positional (before ++ v :: values) before.length = .ok v := by
        rw [positional, List.getElem?_append_right (Nat.le_refl _), Nat.sub_self]
        rfl
      show (numbering.next >>= fun index => positional (before ++ v :: values) index >>= fun v =>
        .ok (v, Numbering.automatic (index + 1))) = _
      rw [h]
      show (positional (before ++ v :: values) before.length >>= _) = _
      rw [hv]
      rfl
    have hnext : (Numbering.automatic (before.length + 1)).next = .ok (before ++ [v]).length := by
      rw [List.length_append]
      rfl
    have hrest := ih (before ++ [v]) _ hnext
    rw [List.append_assoc, List.singleton_append] at hrest
    rw [List.length_cons, List.replicate_succ, List.flatten_cons, List.cons_append,
      List.cons_append, List.nil_append, script_emptyField, fill_directive, hargument, pageOf_cons,
      map_bind]
    show (renderField v emptyField >>= fun first => (fill renderField _ named _ _).map _) = _
    rw [renderField_emptyField, Outcome.bind_map]
    refine bind_congr fun s _ => ?_
    rw [hrest, map_map, map_map]
    rfl

end Brace

namespace Percent

/-- A directive that shows text and asks for nothing else. -/
def plainDirective : Directive where
  key := none
  left := false
  sign := none
  zero := false
  alternate := false
  width := 0
  precision := none
  conversion := 's'

theorem script_plainDirective (t : Text) :
    Directive.script ('%' :: 's' :: t) = .directive plainDirective (Directive.script t) := by
  have hparse : Directive.parse ('s' :: t) = .ok (plainDirective, t) := rfl
  exact Directive.script_of_parse_eq_ok (by simp) hparse

/-- A plain directive shows the safe form of its argument. -/
theorem renderDirective_plainDirective (v : Value) :
    renderDirective v plainDirective = v.toSafe.map SafeText.buffer := by
  rw [← Operand.toText_ofValue_eq_toSafe]
  exact Specifier.layout_align (some .right) (by decide) (Operand.ofValue v).toText _

/-- A template of plain directives shows the page of its arguments. -/
theorem fill_plainDirectives (values : List Value) :
    fill renderDirective (.positional values)
        (Directive.script (List.replicate values.length ['%', 's']).flatten) =
      (pageOf values).map SafeText.buffer := by
  induction values with
  | nil =>
    rw [List.length_nil, List.replicate_zero, List.flatten_nil, Directive.script]
    rfl
  | cons v values ih =>
    have hargument : argument (.positional (v :: values)) plainDirective.key =
        .ok (v, .positional values) := rfl
    rw [List.length_cons, List.replicate_succ, List.flatten_cons, List.cons_append,
      List.cons_append, List.nil_append, script_plainDirective, fill_directive, hargument,
      pageOf_cons, map_bind]
    show (renderDirective v plainDirective >>= fun first =>
      (fill renderDirective (.positional values) _).map _) = _
    rw [renderDirective_plainDirective, Outcome.bind_map]
    refine bind_congr fun s _ => ?_
    rw [ih, map_map, map_map]
    rfl

end Percent

/-! ## Operations on safe texts -/

namespace SafeText

/-- The addition of an operand, which adds safe text as it is and raw text escaped.  There is no
addition of other kinds. -/
def plus (s : SafeText) : Value → SafeText
  | .safe u => s ++ u
  | .str t => s.appendRaw t
  | _ => s

@[simp] theorem append_empty (s : SafeText) : s ++ empty = s :=
  congrArg trusted (List.append_nil s.buffer)

theorem append_assoc (a b c : SafeText) : a ++ b ++ c = a ++ (b ++ c) :=
  congrArg trusted (List.append_assoc a.buffer b.buffer c.buffer)

theorem collect_cons (s : SafeText) (parts : List SafeText) :
    collect (s :: parts) = s ++ collect parts := rfl

/-- The value joins safe text, and in the form `s`. -/
structure Joins (v : Value) (s : SafeText) : Prop where
  toSafe : v.toSafe = .ok s
  operandText? : v.operandText? = some s.buffer
  plus : ∀ front : SafeText, front.plus v = front ++ s

theorem joins_str (t : Text) : Joins (.str t) (.escape t) := ⟨rfl, rfl, fun _ => rfl⟩

theorem joins_safe (s : SafeText) : Joins (.safe s) s := ⟨rfl, rfl, fun _ => rfl⟩

/-- Raw and safe texts all join. -/
theorem exists_joins {values : List Value}
    (h : ∀ v ∈ values, (∃ t, v = .str t) ∨ ∃ s, v = .safe s) :
    ∃ parts, List.Forall₂ Joins values parts := by
  induction values with
  | nil => exact ⟨[], .nil⟩
  | cons v values ih =>
    obtain ⟨parts, hparts⟩ := ih fun u hu => h u (List.mem_cons_of_mem _ hu)
    rcases h v List.mem_cons_self with ⟨t, rfl⟩ | ⟨s, rfl⟩
    · exact ⟨_, .cons (joins_str t) hparts⟩
    · exact ⟨_, .cons (joins_safe s) hparts⟩

section

variable {values : List Value} {parts : List SafeText} (h : List.Forall₂ Joins values parts)
include h

theorem mapM_toSafe_of_joins : values.mapM Value.toSafe = .ok parts :=
  mapM_eq_ok_iff.mpr (h.imp fun _ _ hv => hv.toSafe)

theorem join_of_joins (separator : SafeText) :
    separator.join values =
      .ok (trusted (separator.buffer.intercalate (parts.map buffer))) := by
  have htexts : values.mapM (·.operandText .joinElement) = .ok (parts.map buffer) := by
    refine mapM_eq_ok_iff.mpr (List.forall₂_map_right_iff.mpr (h.imp fun v s hv => ?_))
    rw [Value.operandText, hv.operandText?]
  rw [join, htexts]
  rfl

theorem foldlM_concat_of_joins (front : SafeText) :
    values.foldlM concat front = .ok (front ++ collect parts) := by
  induction h generalizing front with
  | nil => exact congrArg Except.ok (append_empty front).symm
  | cons hv _ ih =>
    rw [List.foldlM_cons, concat, hv.operandText?, collect_cons, ← append_assoc]
    exact ih _

theorem foldl_plus_of_joins (front : SafeText) :
    values.foldl plus front = front ++ collect parts := by
  induction h generalizing front with
  | nil => exact (append_empty front).symm
  | cons hv _ ih => rw [List.foldl_cons, hv.plus, ih, collect_cons, append_assoc]

theorem foldrM_rconcat_of_joins :
    values.foldrM (fun v s => s.rconcat v) empty = .ok (collect parts) := by
  induction h with
  | nil => rfl
  | cons hv _ ih =>
    rw [List.foldrM_cons, ih]
    show rconcat _ _ = _
    rw [rconcat, hv.operandText?]
    rfl

end

theorem intercalate_empty (parts : List SafeText) :
    trusted (empty.buffer.intercalate (parts.map buffer)) = collect parts := by
  refine congrArg trusted ?_
  rw [empty]
  induction parts with
  | nil => rfl
  | cons s parts ih =>
    rw [List.flatMap_cons, ← ih, List.map_cons]
    match parts with
    | [] => rw [List.map_nil, List.intercalate_singleton, List.intercalate_nil, List.append_nil]
    | u :: parts => rw [List.map_cons, List.intercalate_cons_cons, List.append_nil]

end SafeText

/-- An accumulator, a template of empty fields and one of plain directives all give the page of the
values, or fail as it does: with the failure of the first value that has no safe form.  If all
values are raw or safe texts the operations on safe texts give it too, and joining the values by a
separator puts it between their safe forms. -/
theorem assemblies_agree (values : List Value) :
    ((Accumulator.empty .html).appendAll values).map Accumulator.finalize =
      (pageOf values).map .html ∧
    (SafeText.trusted (List.replicate values.length ['{', '}']).flatten).format values [] =
      pageOf values ∧
    (SafeText.trusted (List.replicate values.length ['%', 's']).flatten).interpolate
      (.positional values) = pageOf values ∧
    (∀ e, pageOf values = .error e ↔
      ∃ before v after, values = before ++ v :: after ∧
        (∀ u ∈ before, ∃ s, u.toSafe = .ok s) ∧ v.toSafe = .error e) ∧
    ((∀ v ∈ values, (∃ t, v = .str t) ∨ ∃ s, v = .safe s) →
      ∃ parts, values.mapM Value.toSafe = .ok parts ∧
        pageOf values = .ok (.collect parts) ∧
        SafeText.empty.join values = .ok (.collect parts) ∧
        values.foldlM SafeText.concat SafeText.empty = .ok (.collect parts) ∧
        values.foldl SafeText.plus SafeText.empty = .collect parts ∧
        values.foldrM (fun v (s : SafeText) => s.rconcat v) SafeText.empty = .ok (.collect parts) ∧
        ∀ separator : SafeText, separator.join values =
          .ok (.trusted (separator.buffer.intercalate (parts.map SafeText.buffer)))) := by
  have hpage : ∀ page : Except MarkupError SafeText,
      (page.map SafeText.buffer).map SafeText.trusted = page := by
    intro page
    cases page <;> rfl
  refine ⟨Accumulator.finalize_appendAll_empty values, ?_, ?_, fun e => pageOf_eq_error_iff, ?_⟩
  · have hfill := Brace.fill_emptyFields [] values [] .unset rfl
    exact (congrArg (Except.map SafeText.trusted) hfill).trans (hpage _)
  · exact (congrArg (Except.map SafeText.trusted) (Percent.fill_plainDirectives values)).trans
      (hpage _)
  · intro htexts
    obtain ⟨parts, hparts⟩ := SafeText.exists_joins htexts
    have hsafe := SafeText.mapM_toSafe_of_joins hparts
    refine ⟨parts, hsafe, by rw [pageOf, hsafe]; rfl, ?_, SafeText.foldlM_concat_of_joins hparts _,
      SafeText.foldl_plus_of_joins hparts _, SafeText.foldrM_rconcat_of_joins hparts,
      SafeText.join_of_joins hparts⟩
    rw [SafeText.join_of_joins hparts, SafeText.intercalate_empty]

/-- A raw and a safe angle bracket on either side of an ampersand. -/
theorem assemblies_agree_raw_and_safe :
    (SafeText.trusted "&amp;".toList).join [.str ['<'], .safe (.trusted ['<'])] =
      .ok (.trusted "&lt;&amp;<".toList) := by
  have htexts : ∀ v ∈ [Value.str ['<'], .safe (.trusted ['<'])],
      (∃ t, v = .str t) ∨ ∃ s, v = .safe s := by
    intro v hv
    rcases List.mem_cons.mp hv with rfl | hv
    · exact Or.inl ⟨_, rfl⟩
    · exact Or.inr ⟨_, List.mem_singleton.mp hv⟩
  obtain ⟨parts, hparts, -, -, -, -, -, hjoin⟩ := (assemblies_agree _).2.2.2.2 htexts
  cases hparts
  exact hjoin _

end EscapeOnce
