import EscapeOnce.Proofs.Template.Concatenation
import EscapeOnce.Proofs.Template.WrittenField

/-!
# Writing numbers into fields

A field that names no argument takes the next one by turns.  Its place in the turn can be written
into it: `Field.numbered` goes over a template and writes the numeral in front of whatever stands
between the braces, an accessor, a conversion, a specifier or nothing.  Named fields, doubled braces
and all other text stay, and so does what is behind a brace that opens no field, where no field can
be found.

The numeral is digits, which end neither the name nor the field, so both readers pass over it
(`parse_decimal_append`).  The name of the argument was empty and is the numeral now, and nothing
else of the field has changed, also where the field cannot be read.  Hence the numbered template is
read as the fields of the other one with their turns for arguments (`script_numbered`), as long as
the turns are indices: a number of more than 64 bits would be read as a name.
-/

namespace EscapeOnce

open Numeral Outcome Text

namespace Script

/-- The fields with its turn, counted from `k`, as the argument of each field that takes the next
one. -/
def indexed (k : Nat) : Script Field → Script Field
  | done => done
  | fault error => fault error
  | literal c rest => literal c (indexed k rest)
  | directive field rest =>
    if field.argument = .automatic then
      directive { field with argument := .index k } (indexed (k + 1) rest)
    else directive field (indexed k rest)

end Script

namespace Field

/-- The body of a field names no argument: it begins with an accessor, a conversion or a specifier,
or it is empty. -/
def leavesUnnamed : Text → Bool
  | [] => true
  | c :: _ => beginsAccessor c || c == '!' || c == ':'

/-- The template with its turn, counted from `k`, written into each field that names no argument. -/
def numbered (k : Nat) : Text → Text
  | [] => []
  | '{' :: '{' :: t => '{' :: '{' :: numbered k t
  | '{' :: t =>
    match _found : cutBody .name t with
    | .error _ => '{' :: t
    | .ok (body, rest) =>
      if leavesUnnamed body then '{' :: (decimal k ++ body ++ '}' :: numbered (k + 1) rest)
      else '{' :: (body ++ '}' :: numbered k rest)
  | '}' :: '}' :: t => '}' :: '}' :: numbered k t
  | '}' :: t => '}' :: t
  | c :: t => c :: numbered k t
termination_by t => t.length
decreasing_by
  · simp only [List.length_cons]; omega
  · have := length_lt_of_cutBody_eq_ok _found
    simp only [List.length_cons]
    omega
  · have := length_lt_of_cutBody_eq_ok _found
    simp only [List.length_cons]
    omega
  · simp only [List.length_cons]; omega
  · simp only [List.length_cons]; omega

/-! ## One field -/

theorem argumentName_eq_automatic_iff {t : Text} : argumentName t = .automatic ↔ t = [] := by
  cases t with
  | nil => exact ⟨fun _ => rfl, fun _ => rfl⟩
  | cons c t =>
    refine ⟨fun h => ?_, fun h => nomatch h⟩
    rw [argumentName, if_neg (by simp)] at h
    split at h <;> cases h

/-- The name in a body that names no argument is a chain of accessors. -/
theorem begins_name_of_leavesUnnamed {body name : Text} {rest : Option Form × Text}
    (h : leavesUnnamed body = true) (hsplit : splitBody .name body = .ok (name, rest)) :
    Begins (fun c => (!beginsAccessor c) = false) name := by
  cases body with
  | nil =>
    cases hsplit
    exact begins_nil
  | cons c t =>
    rw [leavesUnnamed, Bool.or_eq_true, Bool.or_eq_true, beq_iff_eq, beq_iff_eq] at h
    rcases h with (haccessor | rfl) | rfl
    · rw [splitBody] at hsplit
      split at hsplit
      · cases hsplit
        exact begins_nil
      · split at hsplit
        · obtain ⟨conversion, -, hsplit⟩ := bind_eq_ok.mp hsplit
          cases hsplit
          exact begins_nil
        · obtain ⟨found, -, hsplit⟩ := map_eq_ok.mp hsplit
          cases hsplit
          exact begins_cons.mpr (by rw [haccessor]; rfl)
    · obtain rfl := name_of_splitBody_eq_ok (begins_cons.mpr (Or.inl rfl)) hsplit
      exact begins_nil
    · obtain rfl := name_of_splitBody_eq_ok (begins_cons.mpr (Or.inr rfl)) hsplit
      exact begins_nil

/-- Any other body begins with the name of an argument. -/
theorem takeWhile_name_ne_nil {body name : Text} {rest : Option Form × Text}
    (h : leavesUnnamed body = false) (hsplit : splitBody .name body = .ok (name, rest)) :
    name.takeWhile (!beginsAccessor ·) ≠ [] := by
  cases body with
  | nil => cases h
  | cons c t =>
    rw [leavesUnnamed, Bool.or_eq_false_iff, Bool.or_eq_false_iff, beq_eq_false_iff_ne,
      beq_eq_false_iff_ne] at h
    obtain ⟨⟨haccessor, hmark⟩, hcolon⟩ := h
    rw [splitBody, if_neg (by simp [hcolon]), if_neg (by simp [hmark])] at hsplit
    obtain ⟨found, -, hsplit⟩ := map_eq_ok.mp hsplit
    cases hsplit
    rw [List.takeWhile_cons_of_pos (by rw [haccessor]; rfl)]
    exact List.cons_ne_nil _ _

/-- A field takes the next argument exactly if its body names none. -/
theorem argument_eq_automatic_iff {body : Text} {field : Field} (h : parse body = .ok field) :
    field.argument = .automatic ↔ leavesUnnamed body = true := by
  obtain ⟨⟨name, conversion, specifier⟩, hsplit, h⟩ := bind_eq_ok.mp h
  obtain ⟨accessors, -, h⟩ := bind_eq_ok.mp h
  obtain ⟨layout, -, h⟩ := bind_eq_ok.mp h
  cases h
  rw [argumentName_eq_automatic_iff]
  cases hbody : leavesUnnamed body with
  | true =>
    refine ⟨fun _ => rfl, fun _ => ?_⟩
    exact takeWhile_append_of_begins (u := []) (fun _ hc => absurd hc List.not_mem_nil)
      (begins_name_of_leavesUnnamed hbody hsplit)
  | false =>
    exact ⟨fun hnil => absurd hnil (takeWhile_name_ne_nil hbody hsplit), fun h => nomatch h⟩

/-- A numeral stays in the name. -/
theorem passes_decimal (k : Nat) : Passes .name (decimal k) .name :=
  passes_name fun _ hc => not_mem_delimiters_of_isDigit (isDigit_of_mem_decimal hc)

/-- A numeral in front of a body that names no argument is the name of the argument, and the rest is
read as before, or fails as before. -/
theorem parse_decimal_append (k : Nat) {body : Text} (h : leavesUnnamed body = true) :
    parse (decimal k ++ body) =
      (parse body).map fun field => { field with argument := argumentName (decimal k) } := by
  have hdigits : ∀ c ∈ decimal k, (!beginsAccessor c) = true := fun c hc => by
    rw [beginsAccessor_of_not_mem (not_mem_delimiters_of_isDigit (isDigit_of_mem_decimal hc))]
    rfl
  rw [parse, parse, (passes_decimal k).splitBody_append, bind_map, map_bind]
  refine bind_congr fun found hsplit => ?_
  obtain ⟨name, conversion, specifier⟩ := found
  have hname := begins_name_of_leavesUnnamed h hsplit
  have hchain : name.dropWhile (!beginsAccessor ·) = name :=
    dropWhile_append_of_begins (u := []) (fun _ hc => absurd hc List.not_mem_nil) hname
  simp only [takeWhile_append_of_begins hdigits hname, dropWhile_append_of_begins hdigits hname,
    hchain]
  rw [map_bind]
  refine bind_congr fun accessors _ => ?_
  rw [map_bind]
  exact bind_congr fun layout _ => rfl

/-! ## Templates -/

section Equations

variable {k : Nat} {t : Text}

theorem numbered_cons_of_ne {c : Char} (hopen : c ≠ '{') (hclose : c ≠ '}') :
    numbered k (c :: t) = c :: numbered k t := by
  rw [numbered]
  · exact fun _ h _ => hopen h
  · exact hopen
  · exact fun _ h _ => hclose h
  · exact hclose

theorem numbered_close (h : t.head? ≠ some '}') : numbered k ('}' :: t) = '}' :: t := by
  rw [numbered]
  rintro u rfl
  exact h rfl

theorem numbered_of_cutBody_eq_error {e : FormatError} (hhead : t.head? ≠ some '{')
    (hcut : cutBody .name t = .error e) : numbered k ('{' :: t) = '{' :: t := by
  rw [numbered]
  · split
    case h_1 => rfl
    case h_2 found =>
      rw [hcut] at found
      cases found
  · rintro u rfl
    exact hhead rfl

theorem numbered_of_cutBody_eq_ok {body rest : Text} (hcut : cutBody .name t = .ok (body, rest)) :
    numbered k ('{' :: t) =
      if leavesUnnamed body then '{' :: (decimal k ++ body ++ '}' :: numbered (k + 1) rest)
      else '{' :: (body ++ '}' :: numbered k rest) := by
  rw [numbered]
  · split
    case h_1 found =>
      rw [hcut] at found
      cases found
    case h_2 found =>
      rw [hcut] at found
      cases found
      rfl
  · rintro u rfl
    cases hcut

end Equations

/-- A field with a number written into it ends at its brace. -/
theorem cutBody_decimal_append (k : Nat) {t body rest : Text}
    (hcut : cutBody .name t = .ok (body, rest)) (u : Text) :
    cutBody .name (decimal k ++ body ++ '}' :: u) = .ok (decimal k ++ body, u) := by
  rw [List.append_assoc, (passes_decimal k).cutBody_append, cutBody_append_close hcut]
  rfl

/-- A template with its turns written into it is read as the fields of the template with their turns
for arguments.  The induction is on the reading of the template, from any turn. -/
theorem script_numbered {k : Nat} {t : Text}
    (h : k + (script t).directives.countP (·.argument = .automatic) ≤ FieldKey.indexLimit) :
    script (numbered k t) = (script t).indexed k := by
  induction t using script.induct generalizing k with
  | case1 =>
    rw [numbered, script]
    rfl
  | case2 t ih =>
    rw [script] at h ⊢
    rw [numbered, script, ih h]
    rfl
  | case3 t hhead e hcut =>
    have hopen := head?_ne_of_forall_ne_cons hhead
    rw [numbered_of_cutBody_eq_error hopen hcut, script_of_cutBody_eq_error hopen hcut]
    rfl
  | case4 t _ body rest hcut e hparse =>
    rw [numbered_of_cutBody_eq_ok hcut, script_of_cutBody_eq_ok hcut, hparse]
    by_cases hunnamed : leavesUnnamed body = true
    · rw [if_pos hunnamed, script_of_cutBody_eq_ok (cutBody_decimal_append k hcut _),
        parse_decimal_append k hunnamed, hparse]
      rfl
    · rw [if_neg hunnamed, script_of_cutBody_eq_ok (cutBody_append_close hcut _), hparse]
      rfl
  | case5 t _ body rest hcut field hparse ih =>
    rw [script_of_parse_eq_ok hcut hparse] at h ⊢
    rw [numbered_of_cutBody_eq_ok hcut, Script.indexed]
    have hargument := argument_eq_automatic_iff hparse
    by_cases hunnamed : leavesUnnamed body = true
    · have hautomatic := hargument.mpr hunnamed
      rw [Script.directives, List.countP_cons_of_pos (by simpa using hautomatic)] at h
      have hwritable : (ArgumentName.index k).Writable := show k < FieldKey.indexLimit by omega
      have hindex : argumentName (decimal k) = .index k := ArgumentName.argumentName_text hwritable
      have hnumbered : parse (decimal k ++ body) = .ok { field with argument := .index k } := by
        rw [parse_decimal_append k hunnamed, hparse, hindex]
        rfl
      rw [if_pos hunnamed, script_of_parse_eq_ok (cutBody_decimal_append k hcut _) hnumbered,
        if_pos hautomatic, ih (by omega)]
    · have hother : field.argument ≠ .automatic := fun heq => hunnamed (hargument.mp heq)
      rw [Script.directives, List.countP_cons_of_neg (by simpa using hother)] at h
      rw [if_neg hunnamed, script_of_parse_eq_ok (cutBody_append_close hcut _) hparse,
        if_neg hother, ih h]
  | case6 t ih =>
    rw [script] at h ⊢
    rw [numbered, script, ih h]
    rfl
  | case7 t hhead =>
    have hclose := head?_ne_of_forall_ne_cons hhead
    rw [numbered_close hclose, script_close hclose]
    rfl
  | case8 c t _ hopen _ hclose ih =>
    rw [script_cons_of_ne hopen hclose] at h ⊢
    rw [numbered_cons_of_ne hopen hclose, script_cons_of_ne hopen hclose, ih h]
    rfl

/-! ## How many numbers there are -/

/-- A template has no more fields than characters. -/
theorem length_directives_script_le (t : Text) : (script t).directives.length ≤ t.length := by
  induction t using script.induct with
  | case1 =>
    rw [script]
    exact Nat.le_refl 0
  | case2 t ih =>
    rw [script, Script.directives, List.length_cons, List.length_cons]
    omega
  | case3 t hhead e hcut =>
    rw [script_of_cutBody_eq_error (head?_ne_of_forall_ne_cons hhead) hcut]
    exact Nat.zero_le _
  | case4 t _ body rest hcut e hparse =>
    rw [script_of_cutBody_eq_ok hcut, hparse]
    exact Nat.zero_le _
  | case5 t _ body rest hcut field hparse ih =>
    have := length_lt_of_cutBody_eq_ok hcut
    rw [script_of_parse_eq_ok hcut hparse, Script.directives, List.length_cons, List.length_cons]
    omega
  | case6 t ih =>
    rw [script, Script.directives, List.length_cons, List.length_cons]
    omega
  | case7 t hhead =>
    rw [script_close (head?_ne_of_forall_ne_cons hhead)]
    exact Nat.zero_le _
  | case8 c t _ hopen _ hclose ih =>
    rw [script_cons_of_ne hopen hclose, Script.directives, List.length_cons]
    omega

end Field

end EscapeOnce
