import EscapeOnce.Proofs.Specifier.Reading
import EscapeOnce.Proofs.Template.Reading

/-!
# Templates one behind the other

A template that can be read is read in the same way when more text follows it.  Every reader knows
the end of its part by a character of that part: a field ends with its closing brace, a key with its
closing parenthesis, and a directive with its conversion, behind which nothing is looked at.  Runs
of flags, digits and modifiers have no such character, but none of them ends a directive, so
something stops them inside the directive (`Directive.parse_append_of_eq_ok`).  Doubled braces and
percent signs are taken in pairs from the left, so no half of one is left for the text that follows.

So the script of two templates is that of the first with that of the second in the place of its end
(`Field.script_append_of_fault?_eq_none`, `Directive.script_append_of_fault?_eq_none`).  The first
has to be readable: behind a fault nothing is read at all, and a brace left open would be closed by
the second.
-/

namespace EscapeOnce

open Outcome Text

namespace Script

variable {δ : Type}

/-- A template with another one in the place of its end. -/
def append : Script δ → Script δ → Script δ
  | done, after => after
  | fault error, _ => fault error
  | literal c rest, after => literal c (rest.append after)
  | directive d rest, after => directive d (rest.append after)

end Script

/-! ## Fields -/

namespace Field

/-- A body that was taken off a template is taken off whatever stands behind its brace. -/
theorem cutBody_append_close {place : Place} {t body rest : Text}
    (h : cutBody place t = .ok (body, rest)) (u : Text) :
    cutBody place (body ++ '}' :: u) = .ok (body, u) := by
  induction t generalizing place body with
  | nil => cases h
  | cons c t ih =>
    rw [cutBody] at h
    by_cases hclosing : (c = '}' && place ≠ .key) = true
    · rw [if_pos hclosing] at h
      cases h
      obtain rfl : c = '}' := of_decide_eq_true (Bool.and_eq_true_iff.mp hclosing).1
      rw [List.nil_append, cutBody, if_pos hclosing]
    · rw [if_neg hclosing] at h
      by_cases hnested : (c = '{' && place ≠ .key) = true
      · rw [if_pos hnested] at h
        cases h
      · rw [if_neg hnested] at h
        obtain ⟨⟨tail, left⟩, hcut, heq⟩ := map_eq_ok.mp h
        cases heq
        rw [List.cons_append, cutBody, if_neg hclosing, if_neg hnested, ih hcut]
        rfl

/-- A field ends at its brace, whatever follows. -/
theorem cutBody_append_of_eq_ok {place : Place} {t body rest : Text}
    (h : cutBody place t = .ok (body, rest)) (u : Text) :
    cutBody place (t ++ u) = .ok (body, rest ++ u) := by
  rw [← append_of_cutBody_eq_ok h, List.append_assoc, List.cons_append]
  exact cutBody_append_close h (rest ++ u)

/-- The fields of two templates, one behind the other, are those of the first and then those of the
second.  The induction is on the reading of the first. -/
theorem script_append_of_fault?_eq_none {t : Text} (h : (script t).fault? = none) (u : Text) :
    script (t ++ u) = (script t).append (script u) := by
  induction t using script.induct with
  | case1 =>
    rw [script]
    rfl
  | case2 t ih =>
    rw [script] at h
    show script ('{' :: '{' :: (t ++ u)) = _
    rw [script, script, ih h]
    rfl
  | case3 t hhead e hcut =>
    rw [script_of_cutBody_eq_error (head?_ne_of_forall_ne_cons hhead) hcut] at h
    cases h
  | case4 t _ body rest hcut e hparse =>
    rw [script_of_cutBody_eq_ok hcut, hparse] at h
    cases h
  | case5 t _ body rest hcut field hparse ih =>
    rw [script_of_parse_eq_ok hcut hparse] at h ⊢
    rw [List.cons_append, script_of_parse_eq_ok (cutBody_append_of_eq_ok hcut u) hparse, ih h]
    rfl
  | case6 t ih =>
    rw [script] at h
    show script ('}' :: '}' :: (t ++ u)) = _
    rw [script, script, ih h]
    rfl
  | case7 t hhead =>
    rw [script_close (head?_ne_of_forall_ne_cons hhead)] at h
    cases h
  | case8 c t _ hopen _ hclose ih =>
    rw [script_cons_of_ne hopen hclose] at h ⊢
    rw [List.cons_append, script_cons_of_ne hopen hclose, ih h]
    rfl

end Field

/-! ## Directives

Each reader gives the same when more text follows, as long as it left something behind, which a
reader before the conversion did. -/

namespace Directive

section

variable {t rest : Text} (u : Text)

/-- A key ends at its parenthesis, whatever follows. -/
theorem cutKey?_append_of_eq_some {depth : Nat} {key : Text}
    (h : cutKey? depth t = some (key, rest)) : cutKey? depth (t ++ u) = some (key, rest ++ u) := by
  have hmap : ∀ {depth : Nat} {c : Char} {t : Text} {key : Text},
      (∀ key, cutKey? depth t = some (key, rest) → cutKey? depth (t ++ u) = some (key, rest ++ u)) →
      (cutKey? depth t).map (fun cut => (c :: cut.1, cut.2)) = some (key, rest) →
      (cutKey? depth (t ++ u)).map (fun cut => (c :: cut.1, cut.2)) = some (key, rest ++ u) := by
    intro depth c t key ih h
    obtain ⟨⟨tail, left⟩, hcut, heq⟩ := Option.map_eq_some_iff.mp h
    cases heq
    rw [ih tail hcut]
    rfl
  fun_induction cutKey? depth t generalizing key with
  | case1 => cases h
  | case2 t =>
    cases h
    rfl
  | case3 t depth ih => exact hmap (fun key => ih) h
  | case4 depth c t hc ih =>
    rw [List.cons_append, cutKey?_cons_of_ne hc]
    exact hmap (fun key => ih) h

theorem readKey_append_of_eq_ok {key : Option Text} (h : readKey t = .ok (key, rest))
    (hrest : rest ≠ []) : readKey (t ++ u) = .ok (key, rest ++ u) := by
  unfold readKey at h
  split at h
  case h_1 t =>
    cases hcut : cutKey? 0 t with
    | none =>
      rw [hcut] at h
      cases h
    | some cut =>
      rw [hcut] at h
      cases h
      rw [List.cons_append, readKey, cutKey?_append_of_eq_some u hcut]
  case h_2 hnone =>
    cases h
    exact readKey_of_begins ((begins_ne_of_forall_ne_cons hnone).append_of_ne_nil hrest u)

theorem readNumber_append_of_eq_ok {number : Option Nat} (h : readNumber t = .ok (number, rest))
    (hrest : rest ≠ []) : readNumber (t ++ u) = .ok (number, rest ++ u) := by
  obtain ⟨run, hrun, hstop, rfl, rfl⟩ := Specifier.readNumber_eq_ok _ h
  rw [List.append_assoc]
  exact Specifier.readNumber_append _ hrun (hstop.append_of_ne_nil hrest u)

theorem readPrecision_append_of_eq_ok {precision : Option Nat}
    (h : readPrecision t = .ok (precision, rest)) (hrest : rest ≠ []) :
    readPrecision (t ++ u) = .ok (precision, rest ++ u) := by
  unfold readPrecision at h
  split at h
  case h_1 t =>
    obtain ⟨⟨number, left⟩, hnumber, h⟩ := bind_eq_ok.mp h
    cases h
    rw [List.cons_append, readPrecision, readNumber_append_of_eq_ok u hnumber hrest]
    rfl
  case h_2 hnone =>
    cases h
    rw [readPrecision]
    intro v hv
    cases t with
    | nil => exact hrest rfl
    | cons c t =>
      cases hv
      exact hnone t rfl

theorem readConversion_append_of_eq_ok {c : Char} (h : readConversion t = .ok (c, rest)) :
    readConversion (t ++ u) = .ok (c, rest ++ u) := by
  unfold readConversion at h
  split at h
  case h_1 => cases h
  case h_2 => cases h
  case h_3 hstar =>
    cases h
    rw [List.cons_append, readConversion]
    rintro rfl
    exact hstar rfl

/-- A directive ends with its conversion, whatever follows. -/
theorem parse_append_of_eq_ok {d : Directive} (h : parse t = .ok (d, rest)) :
    parse (t ++ u) = .ok (d, rest ++ u) := by
  obtain ⟨⟨key, flagged⟩, hkey, h⟩ := bind_eq_ok.mp h
  obtain ⟨⟨width, sized⟩, hwidth, h⟩ := bind_eq_ok.mp h
  obtain ⟨⟨precision, precise⟩, hprecision, h⟩ := bind_eq_ok.mp h
  obtain ⟨⟨conversion, left⟩, hconversion, h⟩ := bind_eq_ok.mp h
  cases h
  -- the conversion stands behind all that the other readers left
  have hletters : precise.dropWhile isModifier ≠ [] := by
    rw [← cons_of_readConversion_eq_ok hconversion]
    exact List.cons_ne_nil _ _
  have hprecise : precise ≠ [] := fun hnil => hletters (by rw [hnil]; rfl)
  have hsized : sized ≠ [] := fun hnil =>
    hprecise (List.suffix_nil.mp (hnil ▸ suffix_of_readPrecision_eq_ok hprecision))
  have hdigits : flagged.dropWhile isFlag ≠ [] := fun hnil =>
    hsized (List.suffix_nil.mp (hnil ▸ suffix_of_readNumber_eq_ok hwidth))
  have hflagged : flagged ≠ [] := fun hnil => hdigits (by rw [hnil]; rfl)
  rw [parse, readKey_append_of_eq_ok u hkey hflagged]
  simp only [bind, Except.bind, takeWhile_append_of_dropWhile_ne_nil hdigits,
    dropWhile_append_of_dropWhile_ne_nil hdigits, readNumber_append_of_eq_ok u hwidth hsized,
    readPrecision_append_of_eq_ok u hprecision hprecise,
    dropWhile_append_of_dropWhile_ne_nil hletters, readConversion_append_of_eq_ok u hconversion]
  rfl

end

/-- The directives of two templates, one behind the other, are those of the first and then those of
the second.  The induction is on the reading of the first. -/
theorem script_append_of_fault?_eq_none {t : Text} (h : (script t).fault? = none) (u : Text) :
    script (t ++ u) = (script t).append (script u) := by
  induction t using script.induct with
  | case1 =>
    rw [script]
    rfl
  | case2 t ih =>
    rw [script] at h
    show script ('%' :: '%' :: (t ++ u)) = _
    rw [script, script, ih h]
    rfl
  | case3 t hhead e hparse =>
    rw [script_of_parse_eq_error (head?_ne_of_forall_ne_cons hhead) hparse] at h
    cases h
  | case4 t hhead d rest hparse ih =>
    have hbegins := begins_ne_of_forall_ne_cons hhead
    have ht : t ≠ [] := fun hnil => absurd (length_lt_of_parse_eq_ok hparse) (by rw [hnil]; simp)
    rw [script_of_parse_eq_ok (hbegins.head?_ne fun h => h rfl) hparse] at h ⊢
    rw [List.cons_append, script_of_parse_eq_ok
      ((hbegins.append_of_ne_nil ht u).head?_ne fun h => h rfl) (parse_append_of_eq_ok u hparse),
      ih h]
    rfl
  | case5 c t _ hpercent ih =>
    rw [script_cons_of_ne hpercent] at h ⊢
    rw [List.cons_append, script_cons_of_ne hpercent, ih h]
    rfl

end Directive

end EscapeOnce
