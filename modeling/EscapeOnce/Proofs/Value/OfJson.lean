import EscapeOnce.Value.Conversion
import EscapeOnce.Value.OfJson

/-!
# Values of documents

Only an object can fail to convert itself to text, and only bytes have no text at all.  A document
holds neither, so the value of a document always has a diagnostic form, a text and a safe form.  The
proof goes through a document with its elements and members; a dictionary is in the order of its
keys and has lost repeated ones, but its values are those of members.
-/

namespace EscapeOnce

namespace Dict

variable {α : Type}

theorem mem_insertSorted {key : Text} {value : α} {d : Dict α} {e : Text × α}
    (h : e ∈ d.insertSorted key value) : e.2 = value ∨ e ∈ d := by
  induction d with
  | nil => exact Or.inl (congrArg Prod.snd (List.mem_singleton.mp h))
  | cons entry rest ih =>
    unfold insertSorted at h
    split at h
    · rcases List.mem_cons.mp h with rfl | h
      · exact Or.inl rfl
      · exact Or.inr h
    · rcases List.mem_cons.mp h with rfl | h
      · exact Or.inl rfl
      · exact Or.inr (List.mem_cons_of_mem _ h)
    · rcases List.mem_cons.mp h with rfl | h
      · exact Or.inr List.mem_cons_self
      · exact (ih h).imp_right (List.mem_cons_of_mem _)

/-- A sorted dictionary holds values of the list that it was made of. -/
theorem exists_mem_of_mem_sortedOf {entries : List (Text × α)} {e : Text × α}
    (h : e ∈ sortedOf entries) : ∃ entry ∈ entries, entry.2 = e.2 := by
  have hfold : ∀ (entries : List (Text × α)) (d : Dict α),
      e ∈ entries.foldl (fun d entry => d.insertSorted entry.1 entry.2) d →
        (∃ entry ∈ entries, entry.2 = e.2) ∨ e ∈ d := by
    intro entries
    induction entries with
    | nil => exact fun d hd => Or.inr hd
    | cons entry entries ih =>
      intro d hd
      rcases ih _ hd with ⟨found, hfound, hvalue⟩ | hd
      · exact Or.inl ⟨found, List.mem_cons_of_mem _ hfound, hvalue⟩
      · rcases mem_insertSorted hd with hvalue | hd
        · exact Or.inl ⟨entry, List.mem_cons_self, hvalue.symm⟩
        · exact Or.inr hd
  exact (hfold entries [] h).resolve_right List.not_mem_nil

end Dict

namespace Value

theorem representations_eq_ok {items : List Value}
    (h : ∀ v ∈ items, ∃ t, v.representation = .ok t) : ∃ ts, representations items = .ok ts := by
  induction items with
  | nil => exact ⟨[], by rw [representations]⟩
  | cons v items ih =>
    obtain ⟨t, ht⟩ := h v List.mem_cons_self
    obtain ⟨ts, hts⟩ := ih fun u hu => h u (List.mem_cons_of_mem _ hu)
    exact ⟨t :: ts, by rw [representations, ht, hts]; rfl⟩

theorem entryRepresentations_eq_ok {entries : List (Text × Value)}
    (h : ∀ e ∈ entries, ∃ t, e.2.representation = .ok t) :
    ∃ ts, entryRepresentations entries = .ok ts := by
  induction entries with
  | nil => exact ⟨[], by rw [entryRepresentations]⟩
  | cons entry entries ih =>
    obtain ⟨t, ht⟩ := h entry List.mem_cons_self
    obtain ⟨ts, hts⟩ := ih fun e he => h e (List.mem_cons_of_mem _ he)
    exact ⟨_, by rw [entryRepresentations, ht, hts]; rfl⟩

mutual

/-- The value of a document has a diagnostic form: nothing in it can fail to. -/
theorem representation_ofJson : ∀ document : Json, ∃ t, (ofJson document).representation = .ok t
  | .null => ⟨_, by rw [ofJson, representation]⟩
  | .bool _ => ⟨_, by rw [ofJson, representation]⟩
  | .number (.int _) => ⟨_, by rw [ofJson, representation]⟩
  | .number (.float _) => ⟨_, by rw [ofJson, representation]⟩
  | .string _ => ⟨_, by rw [ofJson, representation]⟩
  | .array elements => by
    obtain ⟨ts, hts⟩ := representations_eq_ok (representation_ofElements elements)
    exact ⟨_, by rw [ofJson, representation, hts]; rfl⟩
  | .object members => by
    have hsorted : ∀ e ∈ Dict.sortedOf (ofMembers members), ∃ t, e.2.representation = .ok t := by
      intro e he
      obtain ⟨entry, hentry, hvalue⟩ := Dict.exists_mem_of_mem_sortedOf he
      exact hvalue ▸ representation_ofMembers members entry hentry
    obtain ⟨ts, hts⟩ := entryRepresentations_eq_ok hsorted
    exact ⟨_, by rw [ofJson, representation, hts]; rfl⟩

theorem representation_ofElements :
    ∀ (elements : List Json), ∀ v ∈ ofElements elements, ∃ t, v.representation = .ok t
  | [] => fun v hv => by
    rw [ofElements] at hv
    exact absurd hv List.not_mem_nil
  | element :: rest => fun v hv => by
    rw [ofElements] at hv
    rcases List.mem_cons.mp hv with rfl | hv
    · exact representation_ofJson element
    · exact representation_ofElements rest v hv

theorem representation_ofMembers :
    ∀ (members : List (Text × Json)), ∀ e ∈ ofMembers members, ∃ t, e.2.representation = .ok t
  | [] => fun e he => by
    rw [ofMembers] at he
    exact absurd he List.not_mem_nil
  | (_, member) :: rest => fun e he => by
    rw [ofMembers] at he
    rcases List.mem_cons.mp he with rfl | he
    · exact representation_ofJson member
    · exact representation_ofMembers rest e he

end

/-- The value of a document has a text. -/
theorem stringify_ofJson (document : Json) : ∃ t, (ofJson document).stringify = .ok t := by
  have hrepresentation := representation_ofJson document
  match document, hrepresentation with
  | .null, _ => exact ⟨_, by rw [ofJson, stringify]⟩
  | .string _, _ => exact ⟨_, by rw [ofJson, stringify]⟩
  | .bool _, h => exact h
  | .number (.int _), h => exact h
  | .number (.float _), h => exact h
  | .array _, h => exact h
  | .object _, h => exact h

/-- The value of a document is not safe, so its safe form is an escaped text. -/
theorem toSafe_ofJson (document : Json) : ∃ t, (ofJson document).toSafe = .ok (.escape t) := by
  obtain ⟨t, ht⟩ := stringify_ofJson document
  have hraw : (ofJson document).toSafe = (ofJson document).stringify.map .escape := by
    match document with
    | .null => rfl
    | .string _ => rfl
    | .bool _ => rfl
    | .number (.int _) => rfl
    | .number (.float _) => rfl
    | .array _ => rfl
    | .object _ => rfl
  exact ⟨t, by rw [hraw, ht]; rfl⟩

end Value

end EscapeOnce
