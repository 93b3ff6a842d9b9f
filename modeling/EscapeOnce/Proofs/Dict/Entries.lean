import EscapeOnce.Dict
import Mathlib.Data.List.Nodup

/-!
# Entries of a dictionary

What a dictionary says about a key is the value that was written to it last, and in which order the
keys stand does not matter to that (`get?_insertAll`, `get?_sortedOf`).  The order matters only to
who goes through the entries: a key keeps the place where it came first, and new keys go to the end
(`keys_isPrefix_insertAll`).

Writing never puts a key in twice, so the entry that is looked up is the only one with its key
(`get?_eq_some_iff`).
-/

namespace EscapeOnce.Dict

instance : Std.TransCmp Text.compare := inferInstanceAs (Std.TransCmp (List.compareLex Ord.compare))

instance : Std.LawfulEqCmp Text.compare :=
  inferInstanceAs (Std.LawfulEqCmp (List.compareLex Ord.compare))

variable {α : Type} {key : Text} {value : α} {d : Dict α}

/-! ## Looking up -/

@[simp] theorem get?_nil : get? ([] : Dict α) key = none := rfl

theorem get?_cons (entry : Text × α) (rest : Dict α) :
    get? (entry :: rest) key = if key = entry.1 then some entry.2 else get? rest key := by
  rw [get?, List.lookup_cons]
  by_cases h : key = entry.1
  · simp [h]
  · rw [beq_false_of_ne h, if_neg h]
    rfl

/-- A key that is found has an entry. -/
theorem mem_of_get?_eq_some (h : d.get? key = some value) : (key, value) ∈ d := by
  obtain ⟨before, after, rfl, -⟩ := List.lookup_eq_some_iff.mp h
  simp

/-- Where no key stands twice, an entry is what is found under its key. -/
theorem get?_eq_some_iff (hd : d.keys.Nodup) : d.get? key = some value ↔ (key, value) ∈ d := by
  refine ⟨mem_of_get?_eq_some, fun h => ?_⟩
  induction d with
  | nil => exact absurd h List.not_mem_nil
  | cons entry rest ih =>
    obtain ⟨hentry, hrest⟩ := List.nodup_cons.mp hd
    rw [get?_cons]
    rcases List.mem_cons.mp h with rfl | h
    · exact if_pos rfl
    · have hkey : key ≠ entry.1 := fun heq => hentry (heq ▸ List.mem_map_of_mem h)
      rw [if_neg hkey, ih hrest h]

/-- Where no key stands twice, the order of the entries does not matter. -/
theorem get?_reverse (hd : d.keys.Nodup) : get? d.reverse key = d.get? key := by
  have hreverse : keys d.reverse = d.keys.reverse := List.map_reverse
  refine Option.ext fun value => ?_
  rw [get?_eq_some_iff (hreverse ▸ List.nodup_reverse.mpr hd), get?_eq_some_iff hd]
  exact List.mem_reverse

/-- Under a key of a dictionary with mapped values is the image of what was under it. -/
theorem get?_map {β : Type} (f : α → β) :
    get? (d.map fun entry => (entry.1, f entry.2)) key = (d.get? key).map f := by
  induction d with
  | nil => rfl
  | cons entry rest ih =>
    rw [List.map_cons, get?_cons, get?_cons, ih]
    split <;> rfl

theorem mem_keys_iff : key ∈ d.keys ↔ ∃ value, (key, value) ∈ d := by
  simp [keys]

/-! ## Writing -/

theorem get?_insert (other : Text) :
    (d.insert key value).get? other = if other = key then some value else d.get? other := by
  induction d with
  | nil => exact get?_cons _ _
  | cons entry rest ih =>
    rw [insert]
    by_cases hkey : entry.1 = key
    · subst hkey
      simp only [if_true, get?_cons]
      split <;> rfl
    · simp only [if_neg hkey, get?_cons, ih]
      by_cases hother : other = entry.1
      · have hne : other ≠ key := hother ▸ hkey
        simp only [if_pos hother, if_neg hne]
      · simp only [if_neg hother]

/-- The last value of a list of entries that has the key, or else the value that was there
before. -/
theorem get?_insertAll (d : Dict α) (entries : List (Text × α)) :
    (d.insertAll entries).get? key = (get? entries.reverse key).or (d.get? key) := by
  induction entries generalizing d with
  | nil => rfl
  | cons entry entries ih =>
    have hstep : d.insertAll (entry :: entries) = (d.insert entry.1 entry.2).insertAll entries :=
      rfl
    have hlast : get? (entry :: entries).reverse key =
        (get? entries.reverse key).or (get? [entry] key) := by
      rw [List.reverse_cons]
      exact List.lookup_append
    rw [hstep, ih, hlast, Option.or_assoc, get?_insert, get?_cons]
    split <;> rfl

theorem get?_ofList (entries : List (Text × α)) :
    (ofList entries).get? key = get? entries.reverse key := by
  rw [ofList, get?_insertAll, get?_nil, Option.or_none]

theorem get?_insertSorted (other : Text) :
    (d.insertSorted key value).get? other = if other = key then some value else d.get? other := by
  induction d with
  | nil => exact get?_cons _ _
  | cons entry rest ih =>
    rw [insertSorted]
    match hcompare : key.compare entry.1 with
    | .lt => exact get?_cons _ _
    | .eq =>
      have hkey : key = entry.1 := Std.LawfulEqCmp.eq_of_compare hcompare
      simp only [get?_cons, hkey]
      split <;> rfl
    | .gt =>
      have hkey : key ≠ entry.1 := by
        rintro rfl
        rw [show Text.compare entry.1 entry.1 = .eq from Std.ReflCmp.compare_self] at hcompare
        cases hcompare
      simp only [get?_cons, ih]
      by_cases hother : other = entry.1
      · have hne : other ≠ key := hother ▸ hkey.symm
        simp only [if_pos hother, if_neg hne]
      · simp only [if_neg hother]

/-- The order of a dictionary does not change what is found in it. -/
theorem get?_sortedOf (entries : List (Text × α)) :
    (sortedOf entries).get? key = get? entries.reverse key := by
  rw [sortedOf, ← List.foldr_reverse]
  induction entries.reverse with
  | nil => rfl
  | cons entry rest ih => rw [List.foldr_cons, get?_insertSorted, ih, get?_cons]

/-- A dictionary without entries is one in which nothing is found. -/
theorem eq_nil_iff_get? : d = [] ↔ ∀ key, d.get? key = none := by
  constructor
  · rintro rfl
    exact fun _ => rfl
  · intro h
    cases d with
    | nil => rfl
    | cons entry rest =>
      have hfirst := h entry.1
      rw [get?_cons, if_pos rfl] at hfirst
      cases hfirst

theorem insertAll_eq_nil_iff {entries : List (Text × α)} :
    d.insertAll entries = [] ↔ d = [] ∧ entries = [] := by
  have hreverse : entries.reverse = [] ↔ entries = [] := List.reverse_eq_nil_iff
  rw [← hreverse]
  simp only [eq_nil_iff_get?, get?_insertAll, Option.or_eq_none_iff, forall_and]
  exact And.comm

theorem sortedOf_eq_nil_iff {entries : List (Text × α)} : sortedOf entries = [] ↔ entries = [] := by
  have hreverse : entries.reverse = [] ↔ entries = [] := List.reverse_eq_nil_iff
  rw [← hreverse]
  simp only [eq_nil_iff_get?, get?_sortedOf]

/-! ## Keys -/

/-- A key keeps its place, and a new one goes to the end. -/
theorem keys_insert :
    (d.insert key value).keys = if key ∈ d.keys then d.keys else d.keys ++ [key] := by
  induction d with
  | nil => rfl
  | cons entry rest ih =>
    rw [insert]
    by_cases hkey : entry.1 = key
    · simp [keys, hkey]
    · rw [if_neg hkey]
      have hmem : key ∈ keys (entry :: rest) ↔ key ∈ keys rest := by
        simp [keys, Ne.symm hkey]
      have hcons : keys (entry :: insert key value rest) =
          entry.1 :: keys (insert key value rest) := rfl
      simp only [hcons, ih, hmem]
      split <;> rfl

theorem nodup_keys_insert (hd : d.keys.Nodup) : (d.insert key value).keys.Nodup := by
  rw [keys_insert]
  by_cases hkey : key ∈ d.keys
  · rw [if_pos hkey]
    exact hd
  · rw [if_neg hkey, ← List.concat_eq_append]
    exact hd.concat hkey

/-- Writing a list of entries leaves the keys where they are. -/
theorem keys_isPrefix_insertAll (d : Dict α) (entries : List (Text × α)) :
    d.keys <+: (d.insertAll entries).keys := by
  induction entries generalizing d with
  | nil => exact List.prefix_rfl
  | cons entry entries ih =>
    have hfirst : d.keys <+: (d.insert entry.1 entry.2).keys := by
      rw [keys_insert]
      split
      · exact List.prefix_rfl
      · exact List.prefix_append _ _
    exact hfirst.trans (ih _)

theorem nodup_keys_insertAll (hd : d.keys.Nodup) (entries : List (Text × α)) :
    (d.insertAll entries).keys.Nodup := by
  induction entries generalizing d with
  | nil => exact hd
  | cons entry entries ih => exact ih (nodup_keys_insert hd)

theorem nodup_keys_ofList (entries : List (Text × α)) : (ofList entries).keys.Nodup :=
  nodup_keys_insertAll (d := []) List.nodup_nil entries

/-- The keys stand in order, each before all the greater ones. -/
def Ordered (d : Dict α) : Prop := d.keys.Pairwise fun a b => a.compare b = .lt

theorem mem_keys_insertSorted {other : Text} (h : other ∈ (d.insertSorted key value).keys) :
    other = key ∨ other ∈ d.keys := by
  induction d with
  | nil => exact Or.inl (List.mem_singleton.mp h)
  | cons entry rest ih =>
    have hhead : other ∈ keys (entry :: rest) ↔ other = entry.1 ∨ other ∈ keys rest := List.mem_cons
    rw [insertSorted] at h
    rw [hhead]
    split at h
    · exact List.mem_cons.mp h |>.imp_right List.mem_cons.mp
    · exact Or.inr (List.mem_cons.mp h)
    · rcases List.mem_cons.mp h with h | h
      · exact Or.inr (Or.inl h)
      · exact (ih h).imp_right Or.inr

theorem Ordered.insertSorted (hd : d.Ordered) : Ordered (d.insertSorted key value) := by
  induction d with
  | nil => exact List.pairwise_singleton ..
  | cons entry rest ih =>
    obtain ⟨hentry, hrest⟩ := List.pairwise_cons.mp hd
    rw [Dict.insertSorted]
    match hcompare : key.compare entry.1 with
    | .lt =>
      refine List.pairwise_cons.mpr ⟨fun other hother => ?_, hd⟩
      rcases List.mem_cons.mp hother with rfl | hother
      · exact hcompare
      · exact Std.TransCmp.lt_trans hcompare (hentry other hother)
    | .eq => exact hd
    | .gt =>
      refine List.pairwise_cons.mpr ⟨fun other hother => ?_, ih hrest⟩
      rcases mem_keys_insertSorted hother with rfl | hother
      · exact Std.OrientedCmp.lt_of_gt hcompare
      · exact hentry other hother

theorem ordered_sortedOf (entries : List (Text × α)) : (sortedOf entries).Ordered := by
  rw [sortedOf, ← List.foldr_reverse]
  induction entries.reverse with
  | nil => exact List.Pairwise.nil
  | cons entry rest ih => exact ih.insertSorted

theorem Ordered.nodup_keys (hd : d.Ordered) : d.keys.Nodup := by
  refine hd.imp fun hlt heq => ?_
  rw [heq, show Text.compare _ _ = .eq from Std.ReflCmp.compare_self] at hlt
  cases hlt

end EscapeOnce.Dict
