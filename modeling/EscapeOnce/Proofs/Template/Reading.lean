import EscapeOnce.Brace.Field
import EscapeOnce.Percent.Directive
import EscapeOnce.Proofs.Outcome
import EscapeOnce.Proofs.Text.Begins

/-!
# How templates are read

Text without placeholders stands for itself (`Field.script_append`, `Directive.script_append`), and
a brace or a percent sign opens the field or the directive that can be read behind it
(`Field.script_of_parse_eq_ok`, `Directive.script_of_parse_eq_ok`).

The text of a specifier is an end of the body of its field.  Its fill is its first character, and an
alignment stands behind it (`Field.suffix_of_fill_eq_some`).
-/

namespace EscapeOnce

open Outcome

namespace Script

variable {δ : Type}

/-- A template behind a run of literal text. -/
def behind (run : Text) (rest : Script δ) : Script δ := run.foldr literal rest

/-- A run grows by the literal character behind it. -/
theorem behind_append_singleton (run : Text) (c : Char) (rest : Script δ) :
    rest.behind (run ++ [c]) = (literal c rest).behind run :=
  List.foldr_append

end Script

/-! ## Fields -/

/-- The alignment that a fill stands before. -/
theorem Specifier.eq_cons_of_fill_readAlign {t : Text} {c : Char}
    (h : (readAlign t).1.1 = some c) :
    ∃ d rest, t = c :: d :: rest ∧ (Align.ofChar? d).isSome := by
  match t with
  | [] => cases h
  | [d] =>
    rw [readAlign] at h
    cases hd : Align.ofChar? d <;> rw [hd] at h <;> cases h
  | b :: d :: rest =>
    rw [readAlign] at h
    match hd : Align.ofChar? d, hb : Align.ofChar? b with
    | some align, _ =>
      rw [hd] at h
      cases h
      exact ⟨d, rest, rfl, by rw [hd]; rfl⟩
    | none, some align =>
      rw [hd, hb] at h
      cases h
    | none, none =>
      rw [hd, hb] at h
      cases h

/-- The fill of a specifier is its first character. -/
theorem Specifier.fill_of_parse_eq_ok {whole : Text} {s : Specifier} (h : parse whole = .ok s) :
    s.fill = (readAlign whole).1.1 := by
  obtain ⟨width, -, h⟩ := bind_eq_ok.mp h
  obtain ⟨precision, -, h⟩ := bind_eq_ok.mp h
  obtain ⟨kind, -, h⟩ := bind_eq_ok.mp h
  cases h
  rfl

namespace Field

/-- The specifier behind a conversion is an end of the text. -/
theorem suffix_of_readConversion_eq_ok {t specifier : Text} {form : Form}
    (h : readConversion t = .ok (form, specifier)) : specifier <:+ t := by
  cases t with
  | nil => cases h
  | cons c t =>
    rw [readConversion] at h
    by_cases htext : c = 's'
    · rw [if_pos htext] at h
      split at h
      · cases h
        exact List.nil_suffix
      · cases h
        exact ⟨[c, ':'], rfl⟩
      · cases h
    · rw [if_neg htext] at h
      by_cases hrepresentation : c = 'r'
      · rw [if_pos hrepresentation] at h
        split at h
        · cases h
          exact List.nil_suffix
        · cases h
          exact ⟨[c, ':'], rfl⟩
        · cases h
      · rw [if_neg hrepresentation] at h
        cases h

/-- The text of the specifier is an end of the body of a field. -/
theorem suffix_of_splitBody_eq_ok {place : Place} {body name specifier : Text}
    {conversion : Option Form} (h : splitBody place body = .ok (name, conversion, specifier)) :
    specifier <:+ body := by
  induction body generalizing place name with
  | nil =>
    cases h
    exact List.nil_suffix
  | cons c t ih =>
    unfold splitBody at h
    split at h
    · cases h
      exact List.suffix_cons ..
    · split at h
      · obtain ⟨⟨flag, specifier⟩, hread, h⟩ := bind_eq_ok.mp h
        cases h
        exact (suffix_of_readConversion_eq_ok hread).trans (List.suffix_cons c t)
      · obtain ⟨⟨first, rest⟩, hsplit, heq⟩ := map_eq_ok.mp h
        cases heq
        exact (ih hsplit).trans (List.suffix_cons c t)

/-- The fill of a field and an alignment stand somewhere in the body of the field. -/
theorem suffix_of_fill_eq_some {body : Text} {field : Field} {c : Char}
    (h : parse body = .ok field) (hfill : field.specifier.fill = some c) :
    ∃ d rest, c :: d :: rest <:+ body ∧ (Align.ofChar? d).isSome := by
  obtain ⟨⟨name, conversion, specifier⟩, hsplit, h⟩ := bind_eq_ok.mp h
  obtain ⟨accessors, -, h⟩ := bind_eq_ok.mp h
  obtain ⟨s, hparse, h⟩ := bind_eq_ok.mp h
  cases h
  rw [Specifier.fill_of_parse_eq_ok hparse] at hfill
  obtain ⟨d, rest, rfl, halign⟩ := Specifier.eq_cons_of_fill_readAlign hfill
  exact ⟨d, rest, suffix_of_splitBody_eq_ok hsplit, halign⟩

/-- A character that is no brace stands for itself. -/
theorem script_cons_of_ne {c : Char} (hopen : c ≠ '{') (hclose : c ≠ '}') (t : Text) :
    script (c :: t) = .literal c (script t) := by
  rw [script]
  · exact fun _ h _ => hopen h
  · exact hopen
  · exact fun _ h _ => hclose h
  · exact hclose

/-- Text without braces is read as it stands. -/
theorem script_append {run : Text} (hopen : '{' ∉ run) (hclose : '}' ∉ run) (t : Text) :
    script (run ++ t) = (script t).behind run := by
  induction run with
  | nil => rfl
  | cons c run ih =>
    obtain ⟨hc, hrun⟩ := List.ne_and_not_mem_of_not_mem_cons hopen
    obtain ⟨hd, hrest⟩ := List.ne_and_not_mem_of_not_mem_cons hclose
    rw [List.cons_append, script_cons_of_ne hc.symm hd.symm, ih hrun hrest]
    rfl

/-- The body of a field is read part by part, the specifier last. -/
theorem parse_eq_map {body name specifier : Text} {conversion : Option Form}
    {accessors : List FieldKey}
    (hsplit : splitBody .name body = .ok (name, conversion, specifier))
    (haccessors : readAccessors (name.dropWhile (!beginsAccessor ·)) = .ok accessors) :
    parse body = (Specifier.parse specifier).map fun layout =>
      { argument := argumentName (name.takeWhile (!beginsAccessor ·)), accessors, conversion,
        specifier := layout } := by
  rw [parse, hsplit]
  show (readAccessors _ >>= _) = _
  rw [haccessors]
  show (Specifier.parse _ >>= _) = _
  cases Specifier.parse specifier <;> rfl

/-- The body of a field with a specifier that can be read. -/
theorem parse_eq_ok {body name specifier : Text} {conversion : Option Form}
    {accessors : List FieldKey} {layout : Specifier}
    (hsplit : splitBody .name body = .ok (name, conversion, specifier))
    (haccessors : readAccessors (name.dropWhile (!beginsAccessor ·)) = .ok accessors)
    (hlayout : Specifier.parse specifier = .ok layout) :
    parse body = .ok
      { argument := argumentName (name.takeWhile (!beginsAccessor ·)), accessors, conversion,
        specifier := layout } := by
  rw [parse_eq_map hsplit haccessors, hlayout]
  rfl

/-- A closing brace that is not doubled cannot be read. -/
theorem script_close {t : Text} (h : t.head? ≠ some '}') :
    script ('}' :: t) = .fault (.unmatchedBrace '}') := by
  rw [script]
  rintro u rfl
  exact h rfl

/-- Behind a brace that opens no field nothing is read. -/
theorem script_of_cutBody_eq_error {t : Text} {e : FormatError} (hhead : t.head? ≠ some '{')
    (hcut : cutBody .name t = .error e) : script ('{' :: t) = .fault e := by
  rw [script]
  · split
    case h_1 error found =>
      rw [hcut] at found
      cases found
      rfl
    case h_2 body rest found =>
      rw [hcut] at found
      cases found
  · rintro u rfl
    exact hhead rfl

/-- A brace opens the field whose body stands behind it, if the body can be read. -/
theorem script_of_cutBody_eq_ok {t body rest : Text} (hcut : cutBody .name t = .ok (body, rest)) :
    script ('{' :: t) =
      match parse body with
      | .error e => .fault e
      | .ok field => .directive field (script rest) := by
  rw [script]
  · split
    case h_1 error found =>
      rw [hcut] at found
      cases found
    case h_2 first behind found =>
      rw [hcut] at found
      cases found
      rfl
  · rintro u rfl
    cases hcut

/-- A brace opens the field whose body stands behind it. -/
theorem script_of_parse_eq_ok {t body rest : Text} {field : Field}
    (hcut : cutBody .name t = .ok (body, rest)) (hparse : parse body = .ok field) :
    script ('{' :: t) = .directive field (script rest) := by
  rw [script_of_cutBody_eq_ok hcut, hparse]

/-- In a specifier only a brace ends a field. -/
theorem cutBody_tail_append {run : Text} (hopen : '{' ∉ run) (hclose : '}' ∉ run) (rest : Text) :
    cutBody .tail (run ++ '}' :: rest) = .ok (run, rest) := by
  induction run with
  | nil => rfl
  | cons c run ih =>
    obtain ⟨hc, hrun⟩ := List.ne_and_not_mem_of_not_mem_cons hopen
    obtain ⟨hd, hrest⟩ := List.ne_and_not_mem_of_not_mem_cons hclose
    have hnext : Place.tail.next c = .tail := rfl
    rw [List.cons_append, cutBody, if_neg (by simpa using hd.symm), if_neg (by simpa using hc.symm),
      hnext, ih hrun hrest]
    rfl

end Field

/-! ## Directives -/

namespace Directive

/-- A character that is no percent sign stands for itself. -/
theorem script_cons_of_ne {c : Char} (h : c ≠ '%') (t : Text) :
    script (c :: t) = .literal c (script t) := by
  rw [script]
  · exact fun _ hc _ => h hc
  · exact h

/-- Text without percent signs is read as it stands. -/
theorem script_append {run : Text} (h : '%' ∉ run) (t : Text) :
    script (run ++ t) = (script t).behind run := by
  induction run with
  | nil => rfl
  | cons c run ih =>
    obtain ⟨hc, hrun⟩ := List.ne_and_not_mem_of_not_mem_cons h
    rw [List.cons_append, script_cons_of_ne hc.symm, ih hrun]
    rfl

theorem cutKey?_cons_of_ne {c : Char} (h : c ≠ ')') (depth : Nat) (t : Text) :
    cutKey? depth (c :: t) =
      (cutKey? (if c = '(' then depth + 1 else depth) t).map fun cut => (c :: cut.1, cut.2) :=
  if_neg h

/-- Where there is no parenthesis no key is read. -/
theorem readKey_of_begins {t : Text} (ht : Text.Begins (· ≠ '(') t) :
    readKey t = .ok (none, t) := by
  rw [readKey]
  rintro u rfl
  exact Text.begins_cons.mp ht rfl

/-- A percent sign opens the directive that stands behind it. -/
theorem script_of_parse_eq_ok {t rest : Text} {d : Directive}
    (hhead : t.head? ≠ some '%') (hparse : parse t = .ok (d, rest)) :
    script ('%' :: t) = .directive d (script rest) := by
  rw [script]
  · split
    case h_1 error found =>
      rw [hparse] at found
      cases found
    case h_2 first behind found =>
      rw [hparse] at found
      cases found
      rfl
  · rintro u rfl
    exact hhead rfl

/-- Behind a percent sign that opens no directive nothing is read. -/
theorem script_of_parse_eq_error {t : Text} {e : FormatError} (hhead : t.head? ≠ some '%')
    (hparse : parse t = .error e) : script ('%' :: t) = .fault e := by
  rw [script]
  · split
    case h_1 error found =>
      rw [hparse] at found
      cases found
      rfl
    case h_2 first behind found =>
      rw [hparse] at found
      cases found
  · rintro u rfl
    exact hhead rfl

end Directive

end EscapeOnce
