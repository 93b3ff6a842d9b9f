import EscapeOnce.Proofs.Entity.Robust
import EscapeOnce.Proofs.Number.Unmarked
import EscapeOnce.Specifier.Layout

/-!
# What a layout adds to a value

A layout adds nothing to a text but fill characters around it, and nothing to a number but its sign,
the marker of its base, commas and fill characters.  So a property that concatenations inherit is
inherited by what is laid out, as soon as the fill character alone has it (`padded`, `arrange`).

Texts are laid out in pieces, each of which counts as one character.  Escaping the pieces of a text
and laying them out is therefore the same as laying the text out and escaping the result
(`layoutPieces_map_escape`), again as long as the fill character is not itself escaped.
-/

namespace EscapeOnce

open Entity

namespace Specifier

/-- The character that fills the place around a text or a number is the one of the specifier, or
else `standard`. -/
theorem fill_getD {P : Text → Prop} {s : Specifier} {standard : Char}
    (hfill : ∀ c ∈ s.fill, P [c]) (hstandard : P [standard]) : P [s.fill.getD standard] := by
  cases h : s.fill with
  | none => exact hstandard
  | some c => exact hfill c h

/-- Whether a specifier allows a text does not depend on the text.  One that does cuts and pads the
text. -/
theorem layoutPieces_cases (s : Specifier) (typeName : Text) :
    (∃ e, ∀ pieces, s.layoutPieces pieces typeName = .error e) ∨
      ∀ pieces, s.layoutPieces pieces typeName = .ok (s.fitted pieces) := by
  by_cases hkind : s.kind = none ∨ s.kind = some .text
  · have hlayout : ∀ pieces, s.layoutPieces pieces typeName =
        if s.sign.isSome then .error (.badSpecifier .signOnText)
        else if s.alternate || s.grouping || s.align == some .afterSign then
          .error (.badSpecifier .numericOptionOnText)
        else .ok (s.fitted pieces) := by
      intro pieces
      rcases hkind with h | h <;> rw [layoutPieces, h]
    by_cases hsign : s.sign.isSome
    · exact Or.inl ⟨_, fun pieces => by rw [hlayout, if_pos hsign]⟩
    · by_cases hoption : (s.alternate || s.grouping || s.align == some .afterSign) = true
      · exact Or.inl ⟨_, fun pieces => by rw [hlayout, if_neg hsign, if_pos hoption]⟩
      · exact Or.inr fun pieces => by rw [hlayout, if_neg hsign, if_neg hoption]
  · obtain ⟨kind, h, hne⟩ : ∃ kind, s.kind = some kind ∧ kind ≠ .text := by
      match hk : s.kind with
      | none => exact absurd (Or.inl hk) hkind
      | some kind => exact ⟨kind, rfl, fun he => hkind (Or.inr (by rw [hk, he]))⟩
    refine Or.inl ⟨.typeMismatch kind.letter typeName, fun pieces => ?_⟩
    rw [layoutPieces, h]
    cases kind <;> first | rfl | exact absurd rfl hne

end Specifier

namespace Entity.Concatenative

variable {P : Text → Prop} (hP : Concatenative P)
include hP

theorem padded {body : Text} {fill : Char} (width visible : Nat) (align : Align)
    (hfill : P [fill]) (hbody : P body) : P (padded width visible fill align body) := by
  exact hP.append (hP.append (hP.replicate _ hfill) hbody) (hP.replicate _ hfill)

/-- The layout of a text has a property that the fill and every beginning of the text have. -/
theorem layoutPieces {s : Specifier} {pieces : List Text} {typeName t : Text}
    (hfill : ∀ c ∈ s.fill, P [c]) (hpieces : P pieces.flatten)
    (htake : ∀ n, P (pieces.take n).flatten)
    (h : s.layoutPieces pieces typeName = .ok t) : P t := by
  rcases s.layoutPieces_cases typeName with ⟨e, herror⟩ | hok
  · rw [herror] at h
    cases h
  · rw [hok, Except.ok.injEq] at h
    rw [← h]
    refine hP.padded _ _ _ (Specifier.fill_getD hfill (hP.of_unmarked (by split <;> decide))) ?_
    rw [Specifier.kept]
    split
    · exact htake _
    · exact hpieces

end Entity.Concatenative

/-! ## Texts in pieces -/

theorem escape_padded {fill : Char} (hfill : Unmarked [fill]) (width visible : Nat)
    (align : Align) (body : Text) :
    escape (padded width visible fill align body) =
      padded width visible fill align (escape body) := by
  have hrun : ∀ n, escape (List.replicate n fill) = List.replicate n fill := fun n =>
    escape_eq_self (unmarked_replicate n hfill)
  simp only [padded, escape_append, hrun]

namespace Specifier

theorem fitted_map_escape {s : Specifier} (hfill : ∀ c ∈ s.fill, Unmarked [c])
    (pieces : List Text) : s.fitted (pieces.map escape) = escape (s.fitted pieces) := by
  have hkept : s.kept (pieces.map escape) = (s.kept pieces).map escape := by
    rw [kept, kept]
    split
    · exact List.map_take.symm
    · rfl
  have hchar : Unmarked [s.textFill] := fill_getD hfill (by split <;> decide)
  rw [fitted, hkept, List.length_map, ← escape_flatten, fitted, escape_padded hchar]

/-- Escaping the pieces of a text and laying them out escapes the laid out text. -/
theorem layoutPieces_map_escape {s : Specifier} (hfill : ∀ c ∈ s.fill, Unmarked [c])
    (pieces : List Text) (typeName : Text) :
    s.layoutPieces (pieces.map escape) typeName =
      (s.layoutPieces pieces typeName).map escape := by
  rcases s.layoutPieces_cases typeName with ⟨e, herror⟩ | hok
  · rw [herror, herror]
    rfl
  · rw [hok, hok, fitted_map_escape hfill]
    rfl

end Specifier

/-! ## Numbers -/

namespace Specifier

/-- The body of a floating-point number holds no markup. -/
theorem unmarked_of_floatBody? {s : Specifier} {kind : Kind} {x : Binary64} {t : Text}
    (h : s.floatBody? kind x = some t) : Unmarked t := by
  have hpercent : Unmarked (if kind = .percent then ['%'] else []) := by split <;> decide
  have hexponential : ∀ {places : Nat}, (x.exponential? places).map kind.cased = some t →
      Unmarked t := by
    intro places hbody
    obtain ⟨numeral, hnumeral, rfl⟩ := Option.map_eq_some_iff.mp hbody
    exact Numeral.unmarked_cased _ (Binary64.unmarked_of_exponential? hnumeral)
  simp only [floatBody?] at h
  split at h
  · split at h
    · exact hexponential h
    · exact hexponential h
    · exact Binary64.unmarked_of_generalText? h
    · exact Binary64.unmarked_of_generalText? h
    · obtain ⟨numeral, hnumeral, rfl⟩ := Option.map_eq_some_iff.mp h
      exact unmarked_append.mpr ⟨Binary64.unmarked_of_fixed? hnumeral, hpercent⟩
    · exact Binary64.unmarked_of_fixed? h
  · exact Option.some.inj h ▸
      unmarked_append.mpr ⟨Numeral.unmarked_cased _ x.unmarked_nonFinite, hpercent⟩

/-- The marker and the body of the figure of a number hold no markup. -/
theorem unmarked_of_figure? {s : Specifier} {n : Number} {f : Figure} (h : s.figure? n = some f) :
    Unmarked f.marker ∧ Unmarked f.body := by
  have hinteger : ∀ {kind : Kind} {base : Nat} {i : Int64} {marker : Text}, Unmarked marker →
      some (integerFigure kind base marker i) = some f → Unmarked f.marker ∧ Unmarked f.body := by
    rintro kind base i marker hmarker hf
    cases hf
    exact ⟨hmarker, Numeral.unmarked_cased _ (Numeral.unmarked_toDigits _ _)⟩
  have hfloat : ∀ {x : Binary64} {body : Text}, Unmarked body → floatFigure x body = f →
      Unmarked f.marker ∧ Unmarked f.body := by
    rintro x body hbody rfl
    exact ⟨unmarked_nil, hbody⟩
  unfold figure? at h
  split at h
  · exact hinteger (by decide) h
  · exact hinteger (by decide) h
  · exact hinteger (by decide) h
  · exact hinteger (by decide) h
  · exact hinteger (by decide) h
  · exact hinteger (by decide) h
  · split at h
    · obtain ⟨body, hbody, hf⟩ := Option.map_eq_some_iff.mp h
      exact hfloat (Binary64.unmarked_of_generalText? hbody) hf
    · exact hfloat (Binary64.unmarked_toText _) (Option.some.inj h)
  · obtain ⟨body, hbody, hf⟩ := Option.map_eq_some_iff.mp h
    exact hfloat (unmarked_of_floatBody? hbody) hf

theorem unmarked_headText (s : Specifier) {f : Figure} (h : Unmarked f.marker) :
    Unmarked (s.headText f) := by
  have hsign : Unmarked (s.signText f) := by
    rw [signText]
    split
    · decide
    · split <;> decide
  refine unmarked_append.mpr ⟨hsign, ?_⟩
  split
  · exact h
  · exact unmarked_nil

theorem unmarked_bodyText (s : Specifier) {f : Figure} (h : Unmarked f.body) :
    Unmarked (s.bodyText f) := by
  rw [bodyText]
  split
  · exact Numeral.unmarked_grouped h
  · exact h

/-- A number with a character's layout is refused or becomes that character; any other number is
refused or becomes its figure. -/
theorem layoutNumber_cases (s : Specifier) (n : Number) :
    (∃ e, s.layoutNumber n = .error e) ∨
      (∃ code, s.kind = some .character ∧ n = .int code ∧
        s.layoutNumber n = s.layoutCharacter code) ∨
      ∃ f, s.figure? n = some f ∧ s.layoutNumber n = .ok (s.arrange f) := by
  have hfigure : (∃ e, s.layoutFigure n = .error e) ∨
      ∃ f, s.figure? n = some f ∧ s.layoutFigure n = .ok (s.arrange f) := by
    rw [layoutFigure]
    cases s.figure? n with
    | none => exact Or.inl ⟨_, rfl⟩
    | some f => exact Or.inr ⟨f, rfl, rfl⟩
  unfold layoutNumber
  split
  · exact Or.inl ⟨_, rfl⟩
  · split
    · exact Or.inl ⟨_, rfl⟩
    · split
      case h_1 => exact Or.inl ⟨_, rfl⟩
      case h_2 code hkind => exact Or.inr (Or.inl ⟨code, hkind, rfl, rfl⟩)
      case h_3 =>
        split
        · exact Or.inl ⟨_, rfl⟩
        · exact hfigure.imp_right Or.inr
      case h_4 => exact hfigure.imp_right Or.inr

end Specifier

namespace Entity.Concatenative

variable {P : Text → Prop} (hP : Concatenative P)
include hP

/-- A laid out figure is markup only where its fill is. -/
theorem arrange {s : Specifier} (hfill : ∀ c ∈ s.fill, P [c]) {n : Number} {f : Figure}
    (h : s.figure? n = some f) : P (s.arrange f) := by
  obtain ⟨hmarker, hfigure⟩ := Specifier.unmarked_of_figure? h
  have hhead := hP.of_unmarked (s.unmarked_headText hmarker)
  have hbody := hP.of_unmarked (s.unmarked_bodyText hfigure)
  have hchar : P [s.numberFill] :=
    Specifier.fill_getD hfill (hP.of_unmarked (by split <;> decide))
  rw [Specifier.arrange]
  split
  · exact hP.append (hP.append hhead (hP.replicate _ hchar)) hbody
  · exact hP.padded _ _ _ hchar (hP.append hhead hbody)

/-- The layout of a number has a property that the fill and every escaped character have. -/
theorem layoutNumber {s : Specifier} {n : Number} {t : Text} (hfill : ∀ c ∈ s.fill, P [c])
    (hchar : ∀ c, P (escapeChar c)) (h : s.layoutNumber n = .ok t) : P t := by
  rcases s.layoutNumber_cases n with ⟨e, herror⟩ | ⟨code, -, -, hcharacter⟩ | ⟨f, hf, hfigure⟩
  · rw [herror] at h
    cases h
  · rw [hcharacter, Specifier.layoutCharacter] at h
    cases hcode : characterOfCode? code with
    | none =>
      rw [hcode] at h
      cases h
    | some c =>
      rw [hcode] at h
      rw [← Except.ok.inj h]
      exact hP.padded _ _ _ (Specifier.fill_getD hfill (hP.of_unmarked (by decide))) (hchar _)
  · rw [hfigure] at h
    rw [← Except.ok.inj h]
    exact hP.arrange hfill hf

end Entity.Concatenative

end EscapeOnce
