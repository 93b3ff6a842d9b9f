import EscapeOnce.Proofs.Substitution.Fill
import EscapeOnce.Proofs.Substitution.Plain
import EscapeOnce.Proofs.Template.WrittenField

/-!
# Entries of a dictionary by their keys

An accessor on a dictionary asks for one key.  An attribute asks for its own name.  A key between
brackets is read as an index where it denotes one, since the argument may also be a list, and a
dictionary is then asked for the numeral of the index.

Reading a key and writing it again changes nothing but leading zeros
(`FieldKey.toText_parse_eq_iff`).  Signs, points and spaces make a name of a key, and so does a
number that has more than 64 bits, with leading zeros or without.  What is left are the padded keys:
digits behind a zero, of a number that is an index.  Between brackets they ask for another entry
than the one written (`Field.Accessor.finds_bracketed_iff`), and an entry whose own key is padded is
reached as an attribute only.
-/

namespace EscapeOnce

open Numeral Outcome Text

namespace FieldKey

/-- The key is that of an index with at least one zero too many in front. -/
structure Padded (key : Text) : Prop where
  leading_zero : key.head? = some '0'
  more : key ≠ ['0']
  digits : ∀ c ∈ key, c.isDigit = true
  bounded : valueOf key < indexLimit

theorem padded_iff {key : Text} :
    Padded key ↔ key.head? = some '0' ∧ key ≠ ['0'] ∧ key.all Char.isDigit = true ∧
      valueOf key < indexLimit := by
  rw [List.all_eq_true]
  exact ⟨fun h => ⟨h.leading_zero, h.more, h.digits, h.bounded⟩,
    fun h => ⟨h.1, h.2.1, h.2.2.1, h.2.2.2⟩⟩

instance (key : Text) : Decidable (Padded key) := decidable_of_iff _ padded_iff.symm

theorem Padded.exists_cons {key : Text} (h : Padded key) :
    ∃ digits, key = '0' :: digits ∧ digits ≠ [] := by
  obtain ⟨digits, rfl⟩ := List.head?_eq_some_iff.mp h.leading_zero
  exact ⟨digits, rfl, fun hnil => h.more (by rw [hnil])⟩

theorem parse_of_padded {key : Text} (h : Padded key) : parse key = .index (valueOf key) := by
  obtain ⟨digits, rfl, -⟩ := h.exists_cons
  exact parse_of_digits (List.cons_ne_nil _ _) h.digits h.bounded

/-- Reading a key and writing it again keeps the key, unless it is padded.  Any other run of digits
is the numeral of what it denotes, or it is no index. -/
theorem toText_parse_eq_iff {key : Text} : (parse key).toText = key ↔ ¬Padded key := by
  constructor
  · intro heq h
    rw [parse_of_padded h] at heq
    obtain ⟨digits, rfl, hne⟩ := h.exists_cons
    exact decimal_valueOf_zero_cons_ne hne heq
  · intro h
    by_cases hne : key = []
    · subst hne
      rfl
    · by_cases hindex : (∀ c ∈ key, c.isDigit = true) ∧ valueOf key < indexLimit
      · obtain ⟨hdigits, hbound⟩ := hindex
        rw [parse_of_digits hne hdigits hbound]
        refine decimal_valueOf hne hdigits fun hzero => Decidable.by_contra fun hmore => h ?_
        exact ⟨hzero, hmore, hdigits, hbound⟩
      · rw [parse_of_not_digits hindex]
        rfl

end FieldKey

theorem Dict.entry_of_ne {key other : Text} (h : other ≠ key) (v : Value) :
    Dict.entry [(key, v)] other = .error (.missingKey other) := by
  have hnone : get? [(key, v)] other = none := by
    rw [get?, List.lookup_cons, beq_false_of_ne h, List.lookup_nil]
  rw [entry, hnone]

/-- A dictionary is asked for the text of the key. -/
theorem Value.item_map (entries : Dict Value) (key : FieldKey) :
    (map entries).item key = Dict.entry entries key.toText := by
  cases key <;> rfl

namespace Brace

/-- A template of one field, which shows what an accessor reaches from the first argument. -/
def accessText (a : Field.Accessor) : Text := '{' :: '0' :: (a.text ++ ['}'])

/-- What a field without a layout shows of the value that it reaches. -/
def shown (reached : Except FormatError Value) : Except MarkupError Text :=
  MarkupError.ofFormat reached >>= fun v => v.toSafe.map SafeText.buffer

/-- The parts of that field. -/
def accessParts {a : Field.Accessor} (ha : a.Writable) : Field.Parts where
  argument := .index 0
  accessors := [a]
  conversion := none
  specifier := none
  argument_writable := Nat.two_pow_pos 64
  accessor_writable := List.forall_mem_singleton.mpr ha
  specifier_printable := fun s hs => absurd hs (Option.not_mem_none s)
  fill_not_brace := fun s hs => absurd hs (Option.not_mem_none s)

theorem script_accessText {a : Field.Accessor} (ha : a.Writable) :
    Field.script (accessText a) = .directive (accessParts ha).field .done := by
  have htext : accessText a = '{' :: ((accessParts ha).text ++ ['}']) := by
    have hname : (accessParts ha).text = '0' :: (a.text ++ []) ++ [] := rfl
    rw [hname, List.append_nil, List.append_nil]
    rfl
  rw [htext, Field.script_of_parse_eq_ok ((accessParts ha).cutBody_text [])
    (accessParts ha).parse_text, Field.script]

/-- The field shows what the accessor reaches. -/
theorem substitute_accessText {a : Field.Accessor} (ha : a.Writable) (v : Value)
    (others : List Value) (named : Dict Value) :
    substitute (accessText a) (v :: others) named = shown (v.item a.key) := by
  have hfollow : v.follow [a.key] = v.item a.key := by
    rw [Value.follow]
    cases v.item a.key <;> rfl
  have hfield : renderField v (accessParts ha).field = shown (v.item a.key) := by
    have hkeys : (accessParts ha).field.accessors = [a.key] := rfl
    rw [renderField, Operand.follow_ofValue, bind_map, hkeys, hfollow]
    refine bind_congr fun w _ => ?_
    exact (Operand.render_plain _).trans (Operand.toText_ofValue_eq_toSafe w)
  rw [substitute, script_accessText ha, fill_sole_directive]
  exact hfield

/-- Two keys for which every dictionary shows the same are one key. -/
theorem eq_of_shown_entry_eq {key other : Text}
    (h : ∀ entries : Dict Value,
      shown (Dict.entry entries other) = shown (Dict.entry entries key)) :
    other = key := by
  refine Decidable.by_contra fun hne => ?_
  have hentry : Dict.entry [(key, .str [])] key = .ok (.str []) := by
    rw [Dict.entry, Dict.get?, List.lookup_cons_self]
  have hshown := h [(key, .str [])]
  rw [hentry, Dict.entry_of_ne hne] at hshown
  cases hshown

end Brace

namespace Field.Accessor

/-- What the accessor reaches from a dictionary is the entry under this key, and where there is none
it fails with this key.  A field with the accessor shows the same. -/
structure Finds (a : Accessor) (key : Text) : Prop where
  item (entries : Dict Value) : (Value.map entries).item a.key = Dict.entry entries key
  substitute (entries : Dict Value) (others : List Value) (named : Dict Value) :
    Brace.substitute (Brace.accessText a) (.map entries :: others) named =
      Brace.shown (Dict.entry entries key)

/-- An accessor finds the text of its key. -/
theorem finds_toText {a : Accessor} (ha : a.Writable) : a.Finds a.key.toText where
  item entries := Value.item_map entries a.key
  substitute entries others named := by
    rw [Brace.substitute_accessText ha, Value.item_map]

theorem Finds.unique {a : Accessor} {key other : Text} (h : a.Finds key) (hother : a.Finds other) :
    key = other :=
  Brace.eq_of_shown_entry_eq fun entries =>
    (h.substitute entries [] []).symm.trans (hother.substitute entries [] [])

/-- Two accessors show the same of every dictionary when they find the same key, and only then. -/
theorem Finds.substitute_eq_iff {a b : Accessor} {key other : Text} (h : a.Finds key)
    (hother : b.Finds other) :
    (∀ entries others named, Brace.substitute (Brace.accessText a) (.map entries :: others) named =
      Brace.substitute (Brace.accessText b) (.map entries :: others) named) ↔ key = other := by
  constructor
  · intro heq
    refine Brace.eq_of_shown_entry_eq fun entries => ?_
    rw [← h.substitute entries [] [], ← hother.substitute entries [] []]
    exact heq entries [] []
  · rintro rfl entries others named
    rw [h.substitute, hother.substitute]

/-- A key between brackets finds the entry that is stored under exactly this key, whatever it is
made of, unless it is padded; then it finds the entry of the index without its leading zeros.  An
attribute always finds its own name, so for a name that is no padded key the two accessors are the
same. -/
theorem finds_bracketed_iff (key : Text) (hkey : (bracketed key).Writable) :
    ((bracketed key).Finds key ↔ ¬FieldKey.Padded key) ∧
    (FieldKey.Padded key → (bracketed key).Finds (decimal (valueOf key))) ∧
    (IsName key →
      (dotted key).Finds key ∧
      ((∀ entries others named,
        Brace.substitute (Brace.accessText (bracketed key)) (.map entries :: others) named =
          Brace.substitute (Brace.accessText (dotted key)) (.map entries :: others) named) ↔
        ¬FieldKey.Padded key)) := by
  have hfinds : (bracketed key).Finds (FieldKey.parse key).toText := finds_toText hkey
  refine ⟨?_, fun hpadded => ?_, fun hname => ?_⟩
  · rw [← FieldKey.toText_parse_eq_iff]
    refine ⟨hfinds.unique, fun heq => ?_⟩
    rwa [heq] at hfinds
  · rw [FieldKey.parse_of_padded hpadded] at hfinds
    exact hfinds
  · have hdotted : (dotted key).Finds key := finds_toText hname
    exact ⟨hdotted, (hfinds.substitute_eq_iff hdotted).trans FieldKey.toText_parse_eq_iff⟩

/-- A number with a leading zero that has too many bits for an index is found as it is written.  Of
two entries one of which has a leading zero, brackets find the other. -/
theorem finds_bracketed_iff_oversized :
    (bracketed "018446744073709551616".toList).Writable ∧
    Brace.substitute "{0[018446744073709551616]}".toList
      [.map [("018446744073709551616".toList, .str ['x'])]] [] = .ok ['x'] ∧
    (bracketed "007".toList).Writable ∧
    Brace.substitute "{0[007]}".toList
      [.map [("007".toList, .str ['x']), ("7".toList, .str ['y'])]] [] = .ok ['y'] := by
  have hwide : (bracketed "018446744073709551616".toList).Writable := by decide
  have hpadded : (bracketed "007".toList).Writable := by decide
  have hfound := (finds_bracketed_iff _ hwide).1.mpr (by decide)
  have hmoved := (finds_bracketed_iff _ hpadded).2.1 (by decide)
  exact ⟨hwide, hfound.substitute _ [] [], hpadded, hmoved.substitute _ [] []⟩

/-- An entry with leading zeros in its key is not found between brackets.  The report names another
key, and the attribute finds the entry. -/
theorem not_finds_bracketed_padded :
    Dict.entry [("007".toList, .str ['x'])] "007".toList = .ok (.str ['x']) ∧
    (Value.map [("007".toList, .str ['x'])]).item (.parse "007".toList) =
      .error (.missingKey ['7']) ∧
    Brace.substitute "{0[007]}".toList [.map [("007".toList, .str ['x'])]] [] =
      .error (.format (.missingKey ['7'])) ∧
    Brace.substitute "{0.007}".toList [.map [("007".toList, .str ['x'])]] [] = .ok ['x'] := by
  have hbrackets := finds_toText (show (bracketed "007".toList).Writable by decide)
  have hdotted := finds_toText (show (dotted "007".toList).Writable by decide)
  exact ⟨rfl, hbrackets.item _, hbrackets.substitute _ [] [], hdotted.substitute _ [] []⟩

end Field.Accessor

end EscapeOnce
