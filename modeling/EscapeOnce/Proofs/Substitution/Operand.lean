import EscapeOnce.Proofs.Outcome
import EscapeOnce.Proofs.Specifier.Layout
import EscapeOnce.Proofs.Substitution.Raw

/-!
# What an operand adds to its value

An operand is reached by the accessors that reach its value (`follow_ofValue`), and unless the value
is safe its texts are the escaped texts of the value (`toText_ofValue`, `toRepresentation_ofValue`).
A number is no exception, since its text has nothing to escape.

Laying out an escaped text counts the characters of the raw one (`layoutText_escape`).  So every
form in which an operand can be substituted is the escaped form of what the raw value gives
(`render_ofValue`, `Directive.render_ofValue`), whatever the conversion, the width, the precision
and the alignment.
-/

namespace EscapeOnce

open Entity Outcome

/-! ## Operands and values -/

namespace Operand

theorem typeName_ofValue (v : Value) : (ofValue v).typeName = v.typeName := by
  cases v <;> rfl

theorem number?_ofValue (v : Value) : (ofValue v).number? = v.number? := by
  cases v <;> rfl

/-- A number is its own escaped text. -/
theorem ok_toText_eq_map_escape (n : Number) :
    .ok n.toText = (Except.ok n.toText : Except MarkupError Text).map escape :=
  congrArg Except.ok (escape_eq_self n.unmarked_toText).symm

theorem toText_ofValue {v : Value} (h : v.isSafe = false) :
    (ofValue v).toText = v.stringify.map escape := by
  cases v with
  | safe s => cases h
  | int i => exact ok_toText_eq_map_escape (.int i)
  | float x => exact ok_toText_eq_map_escape (.float x)
  | _ => rfl

theorem toRepresentation_ofValue {v : Value} (h : v.isSafe = false) :
    (ofValue v).toRepresentation = v.representation.map escape := by
  cases v with
  | safe s => cases h
  | int i =>
    rw [Value.representation]
    exact ok_toText_eq_map_escape (.int i)
  | float x =>
    rw [Value.representation]
    exact ok_toText_eq_map_escape (.float x)
  | _ => rfl

/-- The item of an operand is the operand of the item. -/
theorem item_ofValue (v : Value) (key : FieldKey) :
    (ofValue v).item key = (MarkupError.ofFormat (v.item key)).map ofValue := by
  cases v <;> rfl

/-- The accessors that lead from a value to another lead from its operand to the operand of the
other. -/
theorem follow_ofValue (v : Value) (keys : List FieldKey) :
    (ofValue v).follow keys = (MarkupError.ofFormat (v.follow keys)).map ofValue := by
  induction keys generalizing v with
  | nil => rfl
  | cons key keys ih =>
    rw [follow, Value.follow, item_ofValue, bind_map, MarkupError.ofFormat_bind, map_bind]
    exact bind_congr fun w _ => ih w

end Operand

/-! ## Layout -/

namespace Specifier

variable {s : Specifier} (hfill : ∀ c ∈ s.fill, Unmarked [c])
include hfill

/-- Laying out an escaped text escapes the laid out raw text. -/
theorem layoutText_escape (t typeName : Text) :
    s.layoutText (escape t) typeName = (s.layoutRaw t typeName).map escape := by
  rw [layoutText, layoutRaw, Visible.tokens_escape, ← layoutPieces_map_escape hfill, List.map_map]
  refine congrArg (s.layoutPieces · typeName) (List.map_congr_left fun c _ => ?_)
  exact (escape_singleton c).symm

/-- A text that is escaped and laid out is the one that is laid out and escaped, if there is one. -/
theorem bind_layoutText_escape (text : Except MarkupError Text) (typeName : Text) :
    (do let t ← text.map escape
        MarkupError.ofFormat (s.layoutText t typeName)) =
      (do let t ← text
          MarkupError.ofFormat (s.layoutRaw t typeName)).map escape := by
  rw [bind_map, map_bind]
  refine bind_congr fun t _ => ?_
  rw [layoutText_escape hfill, MarkupError.ofFormat_map]

theorem layoutCharacter_eq_map_escape (code : Int64) :
    s.layoutCharacter code = (s.layoutCharacterRaw code).map escape := by
  rw [layoutCharacter, layoutCharacterRaw]
  cases characterOfCode? code with
  | none => rfl
  | some c =>
    refine congrArg Except.ok ?_
    rw [escape_padded (fill_getD hfill (by decide)), escape_singleton]

/-- A number that is not laid out as a character has nothing to escape. -/
theorem map_escape_layoutNumber {n : Number}
    (h : ∀ code, n = .int code → s.kind ≠ some .character) :
    (s.layoutNumber n).map escape = s.layoutNumber n := by
  rcases s.layoutNumber_cases n with ⟨e, herror⟩ | ⟨code, hkind, hn, -⟩ | ⟨f, hf, hfigure⟩
  · rw [herror]
    rfl
  · exact absurd hkind (h code hn)
  · rw [hfigure]
    exact congrArg Except.ok (escape_eq_self (concatenative_unmarked.arrange hfill hf))

theorem layoutNumber_eq_map_escape (n : Number) :
    s.layoutNumber n = (s.layoutNumberRaw n).map escape := by
  unfold layoutNumberRaw
  split
  case h_1 code hkind =>
    have hlayout : s.layoutNumber (.int code) =
        if s.precision.isSome then .error (.badSpecifier .precisionOnInteger)
        else if s.grouping then .error (.badSpecifier .groupingOnBase)
        else s.layoutCharacter code := by
      unfold layoutNumber
      rw [hkind]
      rfl
    rw [hlayout, layoutCharacter_eq_map_escape hfill]
    cases s.precision.isSome with
    | true => rfl
    | false => cases s.grouping <;> rfl
  case h_2 hother =>
    exact (map_escape_layoutNumber hfill fun code hn hkind => hother code hkind hn).symm

end Specifier

/-! ## Fields -/

/-- The text of an operand under a conversion is the escaped text of its value. -/
theorem Operand.render_ofValue {v : Value} (hv : v.isSafe = false) (conversion : Option Form)
    {s : Specifier} (hfill : ∀ c ∈ s.fill, Unmarked [c]) :
    (ofValue v).render conversion s = (v.renderRaw conversion s).map escape := by
  unfold render Value.renderRaw
  rw [number?_ofValue, toText_ofValue hv, toRepresentation_ofValue hv, typeName_ofValue]
  match conversion, v.number? with
  | none, some n =>
    simp only
    rw [s.layoutNumber_eq_map_escape hfill, MarkupError.ofFormat_map]
  | some .representation, _ => exact s.bind_layoutText_escape hfill _ _
  | some .text, _ => exact s.bind_layoutText_escape hfill _ _
  | none, none => exact s.bind_layoutText_escape hfill _ _

/-- What a field shows is the escaped form of what it would show raw, unless it reaches a safe
text. -/
theorem Brace.renderField_eq_map_escape {v : Value} {field : Field}
    (hfill : ∀ c ∈ field.specifier.fill, Unmarked [c])
    (hsafe : ∀ w, v.follow field.accessors = .ok w → w.isSafe = false) :
    renderField v field = (renderFieldRaw v field).map escape := by
  rw [renderField, renderFieldRaw, Operand.follow_ofValue, bind_map, map_bind]
  refine bind_congr fun w hw => ?_
  exact Operand.render_ofValue (hsafe w (MarkupError.ofFormat_eq_ok.mp hw)) _ hfill

/-! ## Directives -/

namespace Directive

/-- No conversion of a directive lays a number out as a character of its own. -/
theorem numberKind?_ne_character (conversion : Char) :
    numberKind? conversion ≠ some .character := by
  rw [numberKind?]
  split
  · decide
  · cases Kind.ofLetter? conversion with
    | none => decide
    | some kind => cases kind <;> decide

theorem characterOf_ofValue {v : Value} (hv : v.isSafe = false) :
    characterOf (.ofValue v) = v.character := by
  cases v with
  | safe s => cases hv
  | str t => match t with
    | [] => rfl
    | [_] => rfl
    | _ :: _ :: _ => rfl
  | _ => rfl

theorem layoutNumber_eq_map_escape (d : Directive) {kind : Kind} (hkind : kind ≠ .character)
    (n : Number) : d.layoutNumber kind n = (d.layoutNumber kind n).map escape := by
  unfold layoutNumber
  rw [map_bind]
  refine bind_congr fun m _ => ?_
  split
  · rfl
  · refine (Specifier.map_escape_layoutNumber (fun c hc => ?_) fun _ _ h => ?_).symm
    · exact absurd hc (Option.not_mem_none c)
    · exact hkind (Option.some.inj h)

/-- The text of an operand under a directive is the escaped text of its value. -/
theorem render_ofValue (d : Directive) {v : Value} (hv : v.isSafe = false) :
    d.render (.ofValue v) = (d.renderRaw v).map escape := by
  have hfill : ∀ c ∈ d.textSpecifier.fill, Unmarked [c] := fun c hc =>
    absurd hc (Option.not_mem_none c)
  unfold render renderRaw
  rw [Operand.number?_ofValue, Operand.toText_ofValue hv, Operand.toRepresentation_ofValue hv,
    Operand.typeName_ofValue, characterOf_ofValue hv]
  split
  · exact Specifier.bind_layoutText_escape hfill _ _
  · split
    · exact Specifier.bind_layoutText_escape hfill _ _
    · split
      · rw [map_bind]
        refine bind_congr fun c _ => ?_
        rw [← escape_singleton, Specifier.layoutText_escape hfill, MarkupError.ofFormat_map]
      · match hkind : numberKind? d.conversion, v.number? with
        | some kind, some n =>
          have hne : kind ≠ .character := fun h => numberKind?_ne_character _ (h ▸ hkind)
          exact (congrArg _ (layoutNumber_eq_map_escape d hne n)).trans
            (MarkupError.ofFormat_map ..)
        | some kind, none => rfl
        | none, _ => rfl

end Directive

end EscapeOnce
