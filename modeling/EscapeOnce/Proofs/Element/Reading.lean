import EscapeOnce.Proofs.Text.Begins
import Mathlib.Data.List.Basic

/-!
# Reading an opening tag

An opening tag is read from the left: a name behind the opening bracket, then attributes as long as
there is one, then the end of the tag.  An attribute is a blank, a name, an equals sign and a text
between double quotes, and the text ends at the very next double quote.

What is written of names without delimiters, and of texts without a double quote, is read back part
by part (`read?_written`), and where the texts have no angle bracket in them it is one tag and no
more (`exists_inside_written`).  The blank in front of the slash of an empty element begins no
attribute, since no name begins with a slash.
-/

namespace EscapeOnce

/-- What is read of an opening tag: its name, and the names of its attributes with the texts between
the quotes. -/
structure OpeningTag where
  name : Text
  entries : List (Text × Text)
  selfClosing : Bool
  deriving DecidableEq

namespace OpeningTag

/-! ## Readers -/

/-- The character is part of no name. -/
def isDelimiter (c : Char) : Bool := [' ', '=', '<', '>', '/', '"'].contains c

/-- The text can stand for the name of an element or of an attribute. -/
def IsName (t : Text) : Prop := t ≠ [] ∧ ∀ c ∈ t, isDelimiter c = false

instance : DecidablePred IsName := fun t =>
  @instDecidableAnd _ _ _ (t.decidableBAll fun c => isDelimiter c = false)

/-- Takes off a name, which has at least one character. -/
def readName? (t : Text) : Option (Text × Text) :=
  match t.takeWhile fun c => !isDelimiter c with
  | [] => none
  | c :: name => some (c :: name, t.dropWhile fun c => !isDelimiter c)

/-- Takes off an attribute: a blank, a name, an equals sign, and a text up to the next double
quote. -/
def readAttribute? : Text → Option ((Text × Text) × Text)
  | ' ' :: t =>
    match readName? t with
    | some (name, '=' :: '"' :: t) =>
      (Text.cutAt? '"' t).map fun (text, rest) => ((name, text), rest)
    | _ => none
  | _ => none

theorem length_lt_of_readAttribute?_eq_some {t rest : Text} {entry : Text × Text}
    (h : readAttribute? t = some (entry, rest)) : rest.length < t.length := by
  unfold readAttribute? at h
  split at h
  case h_1 t =>
    split at h
    case h_1 name u hname =>
      obtain ⟨⟨text, after⟩, hcut, heq⟩ := Option.map_eq_some_iff.mp h
      obtain ⟨-, rfl⟩ := Prod.mk.inj heq
      have hle : u.length + 2 ≤ t.length := by
        unfold readName? at hname
        split at hname
        · cases hname
        · obtain ⟨-, hrest⟩ := Prod.mk.inj (Option.some.inj hname)
          have hle := Text.length_dropWhile_le (fun c => !isDelimiter c) t
          rw [hrest] at hle
          exact hle
      have hlength := congrArg List.length (Text.eq_append_of_cutAt?_eq_some hcut)
      rw [List.length_append, List.length_cons] at hlength
      rw [List.length_cons]
      omega
    case h_2 => cases h
  case h_2 => cases h

/-- Takes off attributes as long as there is one. -/
def readEntries (t : Text) : List (Text × Text) × Text :=
  match h : readAttribute? t with
  | some (entry, rest) =>
    have := length_lt_of_readAttribute?_eq_some h
    let (entries, rest) := readEntries rest
    (entry :: entries, rest)
  | none => ([], t)
termination_by t.length

/-- Reads an opening tag and nothing else. -/
def read? : Text → Option OpeningTag
  | '<' :: t => do
    let (name, t) ← readName? t
    match readEntries t with
    | (entries, ['>']) => some ⟨name, entries, false⟩
    | (entries, [' ', '/', '>']) => some ⟨name, entries, true⟩
    | _ => none
  | _ => none

/-! ## What is written -/

/-- An attribute as it is written. -/
def writtenEntry (entry : Text × Text) : Text := ' ' :: entry.1 ++ ['=', '"'] ++ entry.2 ++ ['"']

/-- The end of a tag. -/
def ending (selfClosing : Bool) : Text := if selfClosing then " />".toList else ">".toList

/-- An opening tag as it is written. -/
def written (tag : OpeningTag) : Text :=
  '<' :: tag.name ++ (tag.entries.map writtenEntry).flatten ++ ending tag.selfClosing

theorem readName?_append {name t : Text} (h : IsName name)
    (ht : Text.Begins (isDelimiter · = true) t) : readName? (name ++ t) = some (name, t) := by
  have hrun : ∀ c ∈ name, (!isDelimiter c) = true := fun c hc => by rw [h.2 c hc]; rfl
  have hstop : Text.Begins (fun c => (!isDelimiter c) = false) t :=
    ht.imp fun c hc => by rw [hc]; rfl
  obtain ⟨c, name, rfl⟩ := List.exists_cons_of_ne_nil h.1
  rw [readName?, Text.takeWhile_append_of_begins hrun hstop,
    Text.dropWhile_append_of_begins hrun hstop]

/-- An attribute is read back from what is written of it, whatever follows. -/
theorem readAttribute?_writtenEntry_append {entry : Text × Text} (hname : IsName entry.1)
    (htext : '"' ∉ entry.2) (t : Text) :
    readAttribute? (writtenEntry entry ++ t) = some (entry, t) := by
  have hshape : writtenEntry entry ++ t =
      ' ' :: (entry.1 ++ '=' :: '"' :: (entry.2 ++ '"' :: t)) := by
    simp [writtenEntry]
  have hread := readName?_append hname (t := '=' :: '"' :: (entry.2 ++ '"' :: t))
    (Text.begins_cons.mpr (by decide))
  rw [hshape, readAttribute?]
  simp only [hread, Text.cutAt?_append_cons htext, Option.map_some]

theorem readEntries_of_eq_some {t rest : Text} {entry : Text × Text}
    (h : readAttribute? t = some (entry, rest)) :
    readEntries t = (entry :: (readEntries rest).1, (readEntries rest).2) := by
  rw [readEntries]
  split
  case h_1 found =>
    obtain ⟨rfl, rfl⟩ := Prod.mk.inj (Option.some.inj (found.symm.trans h))
    rfl
  case h_2 found => cases found.symm.trans h

theorem readEntries_of_eq_none {t : Text} (h : readAttribute? t = none) :
    readEntries t = ([], t) := by
  rw [readEntries]
  split
  case h_1 found => cases found.symm.trans h
  case h_2 => rfl

/-- The end of a tag begins no attribute. -/
theorem readEntries_ending (selfClosing : Bool) :
    readEntries (ending selfClosing) = ([], ending selfClosing) := by
  cases selfClosing <;> exact readEntries_of_eq_none rfl

theorem readEntries_written {entries : List (Text × Text)}
    (h : ∀ entry ∈ entries, IsName entry.1 ∧ '"' ∉ entry.2) (selfClosing : Bool) :
    readEntries ((entries.map writtenEntry).flatten ++ ending selfClosing) =
      (entries, ending selfClosing) := by
  induction entries with
  | nil => exact readEntries_ending selfClosing
  | cons entry entries ih =>
    obtain ⟨⟨hname, htext⟩, hentries⟩ := List.forall_mem_cons.mp h
    rw [List.map_cons, List.flatten_cons, List.append_assoc,
      readEntries_of_eq_some (readAttribute?_writtenEntry_append hname htext _), ih hentries]

/-- A tag is read back from what is written of it. -/
theorem read?_written {tag : OpeningTag} (hname : IsName tag.name)
    (h : ∀ entry ∈ tag.entries, IsName entry.1 ∧ '"' ∉ entry.2) : read? tag.written = some tag := by
  obtain ⟨name, entries, selfClosing⟩ := tag
  have hbegins : Text.Begins (isDelimiter · = true)
      ((entries.map writtenEntry).flatten ++ ending selfClosing) := by
    cases entries with
    | nil => cases selfClosing <;> exact Text.begins_cons.mpr (by decide)
    | cons entry entries => exact Text.begins_cons.mpr (by decide)
  rw [written, List.append_assoc, List.cons_append, read?]
  simp only [readName?_append hname hbegins, readEntries_written h selfClosing, Option.bind_eq_bind,
    Option.bind_some]
  cases selfClosing <;> rfl

/-- What is written is one tag: there is no angle bracket between its first and its last
character. -/
theorem exists_inside_written {tag : OpeningTag} (hname : IsName tag.name)
    (h : ∀ entry ∈ tag.entries, IsName entry.1 ∧ ∀ c ∈ entry.2, c ≠ '<' ∧ c ≠ '>') :
    ∃ inside, tag.written = '<' :: inside ++ ['>'] ∧ ∀ c ∈ inside, c ≠ '<' ∧ c ≠ '>' := by
  have hpart : ∀ {t}, IsName t → ∀ c ∈ t, c ≠ '<' ∧ c ≠ '>' := by
    intro t ht c hc
    constructor <;> rintro rfl <;> exact absurd (ht.2 _ hc) (by decide)
  obtain ⟨beforeEnd, hending, hends⟩ : ∃ t, ending tag.selfClosing = t ++ ['>'] ∧
      ∀ c ∈ t, c ≠ '<' ∧ c ≠ '>' := by
    cases tag.selfClosing
    · exact ⟨[], rfl, by simp⟩
    · exact ⟨[' ', '/'], rfl, by simp⟩
  have hentries : ∀ c ∈ (tag.entries.map writtenEntry).flatten, c ≠ '<' ∧ c ≠ '>' := by
    intro c hc
    obtain ⟨_, ht, hc⟩ := List.mem_flatten.mp hc
    obtain ⟨entry, hentry, rfl⟩ := List.mem_map.mp ht
    obtain ⟨hentryName, htext⟩ := h entry hentry
    simp only [writtenEntry, List.mem_append, List.mem_cons, List.not_mem_nil, or_false] at hc
    rcases hc with (((rfl | hc) | rfl | rfl) | hc) | rfl
    · decide
    · exact hpart hentryName c hc
    · decide
    · decide
    · exact htext c hc
    · decide
  refine ⟨tag.name ++ (tag.entries.map writtenEntry).flatten ++ beforeEnd, ?_, ?_⟩
  · rw [written, hending]
    simp only [List.cons_append, List.append_assoc]
  · intro c hc
    rcases List.mem_append.mp hc with hc | hc
    · rcases List.mem_append.mp hc with hc | hc
      · exact hpart hname c hc
      · exact hentries c hc
    · exact hends c hc

end OpeningTag

end EscapeOnce
