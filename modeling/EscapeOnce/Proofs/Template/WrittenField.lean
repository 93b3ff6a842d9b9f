import EscapeOnce.Proofs.Number.Numeral
import EscapeOnce.Proofs.Specifier.Grammar
import EscapeOnce.Proofs.Template.Reading

/-!
# Fields survive writing

A field is taken off a template by a reader that looks for its closing brace, and then taken apart
by one that looks for the end of the name in it.  Each follows the brackets of the name by itself.
A run of characters that leads from one place of a field to another without ending anything is
passed over by both (`Passes.cutBody_append`, `Passes.splitBody_append`).  What the first reader
takes for a field begins with such a run, up to the first exclamation mark or colon outside
brackets, so the second finds the name ending where the first left it
(`splitBody_of_cutBody_eq_ok`).

A name without delimiters is such a run, and so is a key between brackets, whatever else than the
closing bracket it holds.  Hence the argument of a field and its accessors are passed over as they
were written, and the first exclamation mark or colon that a reader meets is the one behind them.
From there on only a brace ends the field, and no printed specifier has one but as its fill.

Behind the argument the accessors are read one by one (`readAccessors_chainText`): an attribute up
to the first character of the next accessor, an item up to its closing bracket.  So a field that was
written in front of any text is read as its parts, and the text is left (`read_written`).
-/

namespace EscapeOnce

open Numeral Outcome Text

/-- The letter that asks for a form. -/
def Form.letter : Form → Char
  | text => 's'
  | representation => 'r'

/-- How a conversion is written in a field. -/
def Brace.conversionText : Option Form → Text
  | none => []
  | some form => ['!', form.letter]

namespace Field

/-! ## Runs that end nothing -/

/-- The characters that stop a reader of a field where they stand in the name, outside brackets. -/
def closers : Text := ['!', ':', '{', '}']

/-- The characters that cannot stand in a name. -/
def delimiters : Text := '.' :: '[' :: closers

/-- The run leads from one place of a field to another, and neither the name nor the field ends in
it. -/
inductive Passes : Place → Text → Place → Prop
  | nil {place : Place} : Passes place [] place
  | cons {place last : Place} {c : Char} {run : Text} (hc : place = .key ∨ c ∉ closers)
      (hrun : Passes (place.next c) run last) : Passes place (c :: run) last

theorem not_closing {place : Place} {c d : Char} (hc : place = .key ∨ c ∉ closers)
    (hd : d ∈ closers) : ¬(c = d && place ≠ .key) := by
  rw [Bool.and_eq_true, decide_eq_true_eq, decide_eq_true_eq]
  rintro ⟨rfl, hplace⟩
  exact hc.elim hplace fun hc => hc hd

namespace Passes

variable {place middle last : Place} {run : Text}

theorem append {more : Text} (h : Passes place run middle) (hmore : Passes middle more last) :
    Passes place (run ++ more) last := by
  induction h with
  | nil => exact hmore
  | cons hc _ ih => exact .cons hc (ih hmore)

/-- The reader that looks for the closing brace passes over the run. -/
theorem cutBody_append (h : Passes place run last) (t : Text) :
    cutBody place (run ++ t) = (cutBody last t).map fun cut => (run ++ cut.1, cut.2) := by
  induction h with
  | nil =>
    rw [List.nil_append]
    cases cutBody _ t <;> rfl
  | cons hc _ ih =>
    rw [List.cons_append, cutBody, if_neg (not_closing hc (by decide)),
      if_neg (not_closing hc (by decide)), ih, map_map]
    rfl

/-- The reader that looks for the end of the name passes over the run. -/
theorem splitBody_append (h : Passes place run last) (t : Text) :
    splitBody place (run ++ t) = (splitBody last t).map fun split => (run ++ split.1, split.2) := by
  induction h with
  | nil =>
    rw [List.nil_append]
    cases splitBody _ t <;> rfl
  | cons hc _ ih =>
    rw [List.cons_append, splitBody, if_neg (not_closing hc (by decide)),
      if_neg (not_closing hc (by decide)), ih, map_map]
    rfl

end Passes

/-! ## The end of the name -/

theorem next_ne_tail {place : Place} {c : Char} (hplace : place ≠ .tail)
    (hc : place = .key ∨ c ∉ closers) : place.next c ≠ .tail := by
  cases place with
  | name =>
    have hmark : ¬(c = '!' || c = ':') := by
      rw [Bool.or_eq_true, decide_eq_true_eq, decide_eq_true_eq]
      rintro (rfl | rfl) <;> exact hc.resolve_left nofun (by decide)
    rw [Place.next, if_neg hmark]
    split <;> exact nofun
  | key =>
    rw [Place.next]
    split <;> exact nofun
  | tail => exact absurd rfl hplace

/-- Every body that is taken off a template begins with a name, which is passed over, and behind the
name stands an exclamation mark, a colon or nothing.  The induction is on the template, from any
place but the tail. -/
theorem exists_passes_of_cutBody_eq_ok {place : Place} {t body rest : Text} (hplace : place ≠ .tail)
    (h : cutBody place t = .ok (body, rest)) :
    ∃ name tail, body = name ++ tail ∧ Passes place name .name ∧
      Begins (fun c => c = '!' ∨ c = ':') tail := by
  induction t generalizing place body with
  | nil => cases h
  | cons c t ih =>
    rw [cutBody] at h
    by_cases hclose : (c = '}' && place ≠ .key) = true
    · rw [if_pos hclose] at h
      cases h
      cases place with
      | name => exact ⟨[], [], rfl, .nil, begins_nil⟩
      | key => exact absurd hclose (by simp)
      | tail => exact absurd rfl hplace
    · rw [if_neg hclose] at h
      by_cases hopen : (c = '{' && place ≠ .key) = true
      · rw [if_pos hopen] at h
        cases h
      · rw [if_neg hopen] at h
        obtain ⟨⟨inner, left⟩, hcut, heq⟩ := map_eq_ok.mp h
        cases heq
        by_cases hc : place = .key ∨ c ∉ closers
        · obtain ⟨name, tail, rfl, hname, htail⟩ := ih (next_ne_tail hplace hc) hcut
          exact ⟨c :: name, tail, rfl, .cons hc hname, htail⟩
        · obtain ⟨hkey, hcloser⟩ := not_or.mp hc
          have hmem : c ∈ closers := Decidable.not_not.mp hcloser
          have hfree : c ≠ '{' := by simpa [hkey] using hopen
          have hlast : c ≠ '}' := by simpa [hkey] using hclose
          have hmark : c = '!' ∨ c = ':' := by simpa [closers, hfree, hlast] using hmem
          cases place with
          | name => exact ⟨[], c :: inner, rfl, .nil, begins_cons.mpr hmark⟩
          | key => exact absurd rfl hkey
          | tail => exact absurd rfl hplace

/-- Where an exclamation mark, a colon or nothing stands there is no more name. -/
theorem name_of_splitBody_eq_ok {tail : Text} (htail : Begins (fun c => c = '!' ∨ c = ':') tail)
    {name : Text} {rest : Option Form × Text} (h : splitBody .name tail = .ok (name, rest)) :
    name = [] := by
  cases tail with
  | nil =>
    cases h
    rfl
  | cons c tail =>
    rcases begins_cons.mp htail with rfl | rfl
    · obtain ⟨found, -, h⟩ := bind_eq_ok.mp h
      cases h
      rfl
    · cases h
      rfl

/-- The two readers agree on where the name of a field ends, whatever the template holds. -/
theorem splitBody_of_cutBody_eq_ok {t body rest : Text} (h : cutBody .name t = .ok (body, rest)) :
    ∃ name tail, body = name ++ tail ∧ Passes .name name .name ∧
      Begins (fun c => c = '!' ∨ c = ':') tail ∧
      ∀ found, splitBody .name body = .ok found → found.1 = name := by
  have hplace : Place.name ≠ .tail := nofun
  obtain ⟨name, tail, rfl, hname, htail⟩ := exists_passes_of_cutBody_eq_ok hplace h
  refine ⟨name, tail, rfl, hname, htail, fun found hfound => ?_⟩
  rw [hname.splitBody_append] at hfound
  obtain ⟨⟨more, left⟩, hsplit, rfl⟩ := map_eq_ok.mp hfound
  obtain rfl := name_of_splitBody_eq_ok htail hsplit
  exact List.append_nil name

/-! ## Runs of a name -/

theorem not_mem_closers {c : Char} (h : c ∉ delimiters) : c ∉ closers := fun hc =>
  h (List.mem_cons_of_mem _ (List.mem_cons_of_mem _ hc))

theorem not_mem_delimiters_of_isDigit {c : Char} (h : c.isDigit = true) : c ∉ delimiters := by
  intro hmem
  have hall : delimiters.all (·.isDigit == false) = true := by decide
  rw [beq_iff_eq.mp (List.all_eq_true.mp hall c hmem)] at h
  cases h

theorem beginsAccessor_of_not_mem {c : Char} (h : c ∉ delimiters) : beginsAccessor c = false := by
  refine Bool.eq_false_iff.mpr fun hbegins => h ?_
  rw [beginsAccessor, Bool.or_eq_true, beq_iff_eq, beq_iff_eq] at hbegins
  rcases hbegins with rfl | rfl <;> decide

/-- A run without delimiters stays in the name. -/
theorem passes_name {run : Text} (h : ∀ c ∈ run, c ∉ delimiters) : Passes .name run .name := by
  induction run with
  | nil => exact .nil
  | cons c run ih =>
    obtain ⟨hc, hrun⟩ := List.forall_mem_cons.mp h
    have hnext : Place.name.next c = .name := by
      rw [Place.next, if_neg, if_neg]
      · rw [Bool.or_eq_true, decide_eq_true_eq, decide_eq_true_eq]
        rintro (rfl | rfl) <;> exact hc (by decide)
      · rintro rfl
        exact hc (by decide)
    refine .cons (.inr (not_mem_closers hc)) ?_
    rw [hnext]
    exact ih hrun

/-- A run without closing brackets stays in a key. -/
theorem passes_key {run : Text} (h : ']' ∉ run) : Passes .key run .key := by
  induction run with
  | nil => exact .nil
  | cons c run ih =>
    obtain ⟨hc, hrun⟩ := List.ne_and_not_mem_of_not_mem_cons h
    have hnext : Place.key.next c = .key := if_neg hc.symm
    refine .cons (.inl rfl) ?_
    rw [hnext]
    exact ih hrun

/-! ## Names and accessors -/

/-- The text can be written where a name is expected. -/
structure IsName (t : Text) : Prop where
  ne_nil : t ≠ []
  not_mem_delimiters : ∀ c ∈ t, c ∉ delimiters

theorem isName_iff {t : Text} : IsName t ↔ t ≠ [] ∧ t.all (· ∉ delimiters) = true := by
  rw [List.all_eq_true]
  exact ⟨fun h => ⟨h.ne_nil, fun c hc => decide_eq_true (h.not_mem_delimiters c hc)⟩,
    fun h => ⟨h.1, fun c hc => of_decide_eq_true (h.2 c hc)⟩⟩

instance (t : Text) : Decidable (IsName t) := decidable_of_iff _ isName_iff.symm

end Field

namespace FieldKey

/-- A run of digits is an index if its value has no more than 64 bits. -/
theorem parse_of_digits {t : Text} (hne : t ≠ []) (hdigits : ∀ c ∈ t, c.isDigit = true)
    (hbound : valueOf t < indexLimit) : parse t = .index (valueOf t) := by
  have hnonempty : t.isEmpty = false := List.isEmpty_eq_false_iff.mpr hne
  refine if_pos ?_
  rw [hnonempty, List.all_eq_true.mpr hdigits, decide_eq_true hbound]
  rfl

/-- Anything else is a name. -/
theorem parse_of_not_digits {t : Text}
    (h : ¬((∀ c ∈ t, c.isDigit = true) ∧ valueOf t < indexLimit)) : parse t = .name t := by
  refine if_neg fun hindex => h ?_
  simp only [Bool.and_eq_true, decide_eq_true_eq] at hindex
  exact ⟨List.all_eq_true.mp hindex.1.2, hindex.2⟩

end FieldKey

namespace ArgumentName

/-- The name of an argument as it is written in a field. -/
def text : ArgumentName → Text
  | automatic => []
  | index n => decimal n
  | name t => t

/-- The name of an argument that can be written in a field: an index has 64 bits, and a name is none
of the digit runs that denote an index. -/
def Writable : ArgumentName → Prop
  | automatic => True
  | index n => n < FieldKey.indexLimit
  | name t => Field.IsName t ∧ ¬((∀ c ∈ t, c.isDigit = true) ∧ valueOf t < FieldKey.indexLimit)

theorem not_mem_delimiters_of_mem_text {name : ArgumentName} (h : name.Writable) :
    ∀ c ∈ name.text, c ∉ Field.delimiters := by
  cases name with
  | automatic => exact fun c hc => absurd hc List.not_mem_nil
  | index n => exact fun c hc => Field.not_mem_delimiters_of_isDigit (isDigit_of_mem_decimal hc)
  | name t => exact h.1.not_mem_delimiters

/-- The name of an argument is read back. -/
theorem argumentName_text {name : ArgumentName} (h : name.Writable) :
    Field.argumentName name.text = name := by
  cases name with
  | automatic => rfl
  | index n =>
    have hlimit : valueOf (decimal n) < FieldKey.indexLimit := by
      rw [valueOf_decimal]
      exact h
    have hkey := FieldKey.parse_of_digits (decimal_ne_nil n) (fun c => isDigit_of_mem_decimal)
      hlimit
    rw [text, Field.argumentName, if_neg (by simp [decimal_ne_nil]), hkey, valueOf_decimal]
  | name t =>
    rw [text, Field.argumentName, if_neg (by simp [h.1.ne_nil]), FieldKey.parse_of_not_digits h.2]

end ArgumentName

namespace Field

/-- An accessor as it is written. -/
inductive Accessor where
  /-- An attribute behind a point. -/
  | dotted (name : Text)
  /-- A key between brackets. -/
  | bracketed (key : Text)

namespace Accessor

def text : Accessor → Text
  | dotted name => '.' :: name
  | bracketed key => '[' :: key ++ [']']

/-- The key that an accessor follows.  Only between brackets are digits an index. -/
def key : Accessor → FieldKey
  | dotted name => .name name
  | bracketed key => .parse key

/-- An accessor that can be written in a field: a key between brackets may hold delimiters. -/
def Writable : Accessor → Prop
  | dotted name => IsName name
  | bracketed key => key ≠ [] ∧ ']' ∉ key

instance : DecidablePred Writable
  | dotted name => inferInstanceAs (Decidable (IsName name))
  | bracketed key => inferInstanceAs (Decidable (key ≠ [] ∧ ']' ∉ key))

theorem passes {accessor : Accessor} (h : accessor.Writable) :
    Passes .name accessor.text .name := by
  cases accessor with
  | dotted name => exact .cons (.inr (by decide)) (passes_name h.not_mem_delimiters)
  | bracketed key =>
    have hclosing : Passes .key [']'] .name := .cons (.inl rfl) .nil
    exact .cons (.inr (by decide)) ((passes_key h.2).append hclosing)

end Accessor

/-- A chain of accessors as it is written. -/
def chainText (accessors : List Accessor) : Text := accessors.flatMap Accessor.text

theorem passes_chainText {accessors : List Accessor} (h : ∀ a ∈ accessors, a.Writable) :
    Passes .name (chainText accessors) .name := by
  induction accessors with
  | nil => exact .nil
  | cons a accessors ih =>
    obtain ⟨ha, haccessors⟩ := List.forall_mem_cons.mp h
    exact (Accessor.passes ha).append (ih haccessors)

theorem begins_chainText (accessors : List Accessor) :
    Begins (fun c => (!beginsAccessor c) = false) (chainText accessors) := by
  cases accessors with
  | nil => exact begins_nil
  | cons a accessors => cases a <;> exact begins_cons.mpr rfl

/-- A chain of accessors is read back. -/
theorem readAccessors_chainText {accessors : List Accessor} (h : ∀ a ∈ accessors, a.Writable) :
    readAccessors (chainText accessors) = .ok (accessors.map Accessor.key) := by
  induction accessors with
  | nil => exact readAccessors.eq_1
  | cons a accessors ih =>
    obtain ⟨ha, haccessors⟩ := List.forall_mem_cons.mp h
    cases a with
    | dotted name =>
      have hname : ∀ c ∈ name, (!beginsAccessor c) = true := fun c hc => by
        rw [beginsAccessor_of_not_mem (ha.not_mem_delimiters c hc)]
        rfl
      have hnext := begins_chainText accessors
      show readAccessors ('.' :: (name ++ chainText accessors)) = _
      rw [readAccessors, takeWhile_append_of_begins hname hnext,
        dropWhile_append_of_begins hname hnext, if_neg (by simp [ha.ne_nil]), ih haccessors]
      rfl
    | bracketed key =>
      have hassoc : chainText (.bracketed key :: accessors) =
          '[' :: (key ++ ']' :: chainText accessors) := by
        simp [chainText, Accessor.text]
      have hcut := cutAt?_append_cons ha.2 (chainText accessors)
      rw [hassoc, readAccessors]
      split
      case h_1 found =>
        rw [hcut] at found
        cases found
      case h_2 found =>
        rw [hcut] at found
        cases found
        rw [if_neg (by simp [ha.1]), ih haccessors]
        rfl

/-! ## Behind the name -/

/-- A conversion and the text of a specifier behind a colon, each of which may be left out. -/
def tailText (conversion : Option Form) (specifier : Option Text) : Text :=
  Brace.conversionText conversion ++ (specifier.map (':' :: ·)).getD []

/-- The name ends where the conversion or the specifier begins. -/
theorem splitBody_tailText (conversion : Option Form) (specifier : Option Text) :
    splitBody .name (tailText conversion specifier) = .ok ([], conversion, specifier.getD []) := by
  match conversion, specifier with
  | none, none => rfl
  | none, some t => rfl
  | some .text, none => rfl
  | some .text, some t => rfl
  | some .representation, none => rfl
  | some .representation, some t => rfl

/-- The field ends at the brace behind its specifier. -/
theorem cutBody_tailText (conversion : Option Form) {specifier : Option Text}
    (h : ∀ t ∈ specifier, '{' ∉ t ∧ '}' ∉ t) (rest : Text) :
    cutBody .name (tailText conversion specifier ++ '}' :: rest) =
      .ok (tailText conversion specifier, rest) := by
  -- the first character, a colon or an exclamation mark, ends the name of the argument
  have hmarked : ∀ {c : Char} {tail : Text}, c = ':' ∨ c = '!' → '{' ∉ tail → '}' ∉ tail →
      cutBody .name (c :: tail ++ '}' :: rest) = .ok (c :: tail, rest) := by
    intro c tail hc hopen hclose
    have hcut := congrArg (Except.map fun cut => (c :: cut.1, cut.2))
      (cutBody_tail_append hopen hclose rest)
    rcases hc with rfl | rfl <;> exact hcut
  match conversion, specifier with
  | none, none => rfl
  | none, some t => exact hmarked (.inl rfl) (h t rfl).1 (h t rfl).2
  | some form, none =>
    refine hmarked (.inr rfl) ?_ ?_ <;> cases form <;> decide
  | some form, some t =>
    refine hmarked (.inr rfl) ?_ ?_
    · cases form <;> simpa [Form.letter] using (h t rfl).1
    · cases form <;> simpa [Form.letter] using (h t rfl).2

/-! ## Written fields -/

/-- The parts that a field is written from. -/
structure Parts where
  argument : ArgumentName
  accessors : List Accessor
  conversion : Option Form
  /-- The specifier behind a colon, if there is a colon. -/
  specifier : Option Specifier
  argument_writable : argument.Writable
  accessor_writable : ∀ a ∈ accessors, a.Writable
  specifier_printable : ∀ s ∈ specifier, s.Printable
  /-- A brace as the fill would end the field or open another one. -/
  fill_not_brace : ∀ s ∈ specifier, s.fill ≠ some '{' ∧ s.fill ≠ some '}'

namespace Parts

variable (p : Parts)

/-- The name of the argument with its accessors. -/
def nameText : Text := p.argument.text ++ chainText p.accessors

/-- The specifier as it is written behind its colon. -/
def specifierText : Option Text := p.specifier.map Specifier.print

/-- What the parts make up between the braces. -/
def text : Text := p.nameText ++ tailText p.conversion p.specifierText

/-- The field that the parts denote; without a colon its layout changes nothing. -/
def field : Field where
  argument := p.argument
  accessors := p.accessors.map Accessor.key
  conversion := p.conversion
  specifier := p.specifier.getD .plain

theorem passes_nameText : Passes .name p.nameText .name :=
  (passes_name (ArgumentName.not_mem_delimiters_of_mem_text p.argument_writable)).append
    (passes_chainText p.accessor_writable)

/-- No printed specifier has a brace but as its fill. -/
theorem not_mem_specifierText : ∀ t ∈ p.specifierText, '{' ∉ t ∧ '}' ∉ t := by
  intro t ht
  obtain ⟨s, hs, rfl⟩ := Option.map_eq_some_iff.mp ht
  have hprint := p.specifier_printable s hs
  obtain ⟨hopen, hclose⟩ := p.fill_not_brace s hs
  exact ⟨Specifier.not_mem_print hprint hopen rfl (by rintro ⟨⟩ <;> decide),
    Specifier.not_mem_print hprint hclose rfl (by rintro ⟨⟩ <;> decide)⟩

/-- The field ends at the brace behind its parts. -/
theorem cutBody_text (rest : Text) :
    cutBody .name (p.text ++ '}' :: rest) = .ok (p.text, rest) := by
  rw [text, List.append_assoc, p.passes_nameText.cutBody_append,
    cutBody_tailText p.conversion p.not_mem_specifierText]
  rfl

/-- The name ends where it was written to end. -/
theorem splitBody_text :
    splitBody .name p.text = .ok (p.nameText, p.conversion, p.specifierText.getD []) := by
  rw [text, p.passes_nameText.splitBody_append, splitBody_tailText]
  exact congrArg (fun name => Except.ok (name, p.conversion, _)) (List.append_nil p.nameText)

/-- What the parts make up is read as the field that they denote. -/
theorem parse_text : parse p.text = .ok p.field := by
  have hargument : ∀ c ∈ p.argument.text, (!beginsAccessor c) = true := fun c hc => by
    rw [beginsAccessor_of_not_mem
      (ArgumentName.not_mem_delimiters_of_mem_text p.argument_writable c hc)]
    rfl
  have hchain := begins_chainText p.accessors
  have hname : p.nameText.takeWhile (!beginsAccessor ·) = p.argument.text :=
    takeWhile_append_of_begins hargument hchain
  have haccessors : readAccessors (p.nameText.dropWhile (!beginsAccessor ·)) =
      .ok (p.accessors.map Accessor.key) := by
    rw [nameText, dropWhile_append_of_begins hargument hchain,
      readAccessors_chainText p.accessor_writable]
  have hlayout : Specifier.parse (p.specifierText.getD []) = .ok (p.specifier.getD .plain) := by
    rw [specifierText]
    match hs : p.specifier with
    | none => rfl
    | some s => exact Specifier.parse_print (p.specifier_printable s hs)
  rw [parse_eq_ok p.splitBody_text haccessors hlayout, hname,
    ArgumentName.argumentName_text p.argument_writable]
  rfl

end Parts

/-- A field that was written between braces in front of any text ends at its closing brace.  Inside
it the name ends where it was written to end, and the field is read as its parts: the argument, the
accessors in order, the conversion and the specifier.  In a template the text behind the brace is
read on its own.  In any other field too, the two readers agree on where the name ends. -/
theorem read_written :
    (∀ (p : Parts) (rest : Text),
      cutBody .name (p.text ++ '}' :: rest) = .ok (p.text, rest) ∧
      splitBody .name p.text = .ok (p.nameText, p.conversion, p.specifierText.getD []) ∧
      parse p.text = .ok p.field ∧
      script ('{' :: (p.text ++ '}' :: rest)) = .directive p.field (script rest)) ∧
    ∀ t body rest : Text, cutBody .name t = .ok (body, rest) →
      ∃ name tail, body = name ++ tail ∧ Passes .name name .name ∧
        Begins (fun c => c = '!' ∨ c = ':') tail ∧
        ∀ found, splitBody .name body = .ok found → found.1 = name := by
  refine ⟨fun p rest => ?_, fun t body rest => splitBody_of_cutBody_eq_ok⟩
  exact ⟨p.cutBody_text rest, p.splitBody_text, p.parse_text,
    script_of_parse_eq_ok (p.cutBody_text rest) p.parse_text⟩

/-- A colon as the fill, beside an alignment and two numbers. -/
def colonFill : Specifier :=
  { Specifier.plain with fill := some ':', align := some .center, width := 12, precision := some 3 }

/-- Closing brackets in names, every delimiter in a key, and an index with leading zeros. -/
def punctuated : Parts where
  argument := .name "x]1".toList
  accessors := [.dotted "a]b".toList, .bracketed "!:{}[".toList, .bracketed "007".toList]
  conversion := some .representation
  specifier := some colonFill
  argument_writable := ⟨by decide, fun h => absurd (h.1 'x' (by decide)) (by decide)⟩
  accessor_writable := by decide
  specifier_printable := by
    rintro s ⟨⟩
    exact ⟨fun _ => rfl, by decide, by rintro precision ⟨⟩; decide⟩
  fill_not_brace := by
    rintro s ⟨⟩
    exact ⟨by decide, by decide⟩

/-- A closing bracket in a name ends nothing, and nothing else ends a key.  The brace behind the
closing one belongs to the text that follows. -/
theorem read_written_punctuated :
    cutBody .name "x]1.a]b[!:{}[][007]!r::^12.3\x7d\x7d\x7b".toList =
      .ok ("x]1.a]b[!:{}[][007]!r::^12.3".toList, "\x7d\x7b".toList) ∧
    splitBody .name "x]1.a]b[!:{}[][007]!r::^12.3".toList =
      .ok ("x]1.a]b[!:{}[][007]".toList, some .representation, ":^12.3".toList) ∧
    parse "x]1.a]b[!:{}[][007]!r::^12.3".toList = .ok
      { argument := .name "x]1".toList
        accessors := [.name "a]b".toList, .name "!:{}[".toList, .index 7]
        conversion := some .representation
        specifier := colonFill } ∧
    ∃ name tail, "x]1.a]b[!:{}[][007]!r::^12.3".toList = name ++ tail ∧ Passes .name name .name ∧
      name = "x]1.a]b[!:{}[][007]".toList := by
  obtain ⟨hcut, hsplit, hparse, -⟩ := read_written.1 punctuated "\x7d\x7b".toList
  obtain ⟨name, tail, hbody, hname, -, hend⟩ := read_written.2 _ _ _ hcut
  exact ⟨hcut, hsplit, hparse, name, tail, hbody, hname, (hend _ hsplit).symm⟩

end Field

end EscapeOnce
