import EscapeOnce.Text

/-!
# What a text begins with

A reader that takes off a run of characters of one class stops where another character follows, and
at the end of the text.  So the run in front of a text is read off whole as soon as the text is
empty or begins with a character outside of the class; what else follows does not matter.

`Begins P t` says this of a class: if `t` has a first character, it has the property `P`.

A run that has stopped before the end of a text stops at the same place when the text goes on
(`takeWhile_append_of_dropWhile_ne_nil`).
-/

namespace EscapeOnce.Text

/-- The first character of a text, if it has one, has a property. -/
def Begins (P : Char → Prop) (t : Text) : Prop := ∀ c ∈ t.head?, P c

variable {P Q : Char → Prop} {t u : Text} {c : Char}

theorem begins_nil : Begins P [] := fun _ h => absurd h (Option.not_mem_none _)

theorem begins_cons : Begins P (c :: t) ↔ P c :=
  ⟨fun h => h c rfl, fun h _ hd => Option.some.inj hd ▸ h⟩

/-- The first character of two texts is that of the first, or, if that is empty, of the second. -/
theorem Begins.append (hu : Begins P u) (ht : Begins P t) : Begins P (u ++ t) := by
  cases u with
  | nil => exact ht
  | cons c u => exact begins_cons.mpr (begins_cons.mp hu)

theorem begins_of_forall (h : ∀ c ∈ t, P c) : Begins P t := fun c hc =>
  h c (List.mem_of_mem_head? hc)

theorem begins_ne_of_forall_ne_cons (h : ∀ u, t ≠ c :: u) : Begins (· ≠ c) t := by
  rintro d hd rfl
  obtain ⟨u, rfl⟩ := List.head?_eq_some_iff.mp hd
  exact h u rfl

theorem head?_ne_of_forall_ne_cons (h : ∀ u, t ≠ c :: u) : t.head? ≠ some c := fun hd =>
  begins_ne_of_forall_ne_cons h c hd rfl

/-- The first character of a text that is not empty is not changed by what follows the text. -/
theorem Begins.append_of_ne_nil (h : Begins P t) (ht : t ≠ []) (u : Text) : Begins P (t ++ u) := by
  cases t with
  | nil => exact absurd rfl ht
  | cons c t => exact begins_cons.mpr (begins_cons.mp h)

theorem Begins.imp (h : Begins P t) (hPQ : ∀ c, P c → Q c) : Begins Q t := fun c hc =>
  hPQ c (h c hc)

theorem Begins.head?_ne (h : Begins P t) (hc : ¬ P c) : t.head? ≠ some c := fun hd => hc (h c hd)

section

variable {p : Char → Bool} (hrun : ∀ c ∈ u, p c = true) (ht : Begins (p · = false) t)
include hrun ht

/-- A run is taken off whole. -/
theorem takeWhile_append_of_begins : (u ++ t).takeWhile p = u := by
  have hstop : t.takeWhile p = [] := by
    cases t with
    | nil => rfl
    | cons c t => rw [List.takeWhile_cons, begins_cons.mp ht]; rfl
  rw [List.takeWhile_append_of_pos hrun, hstop, List.append_nil]

/-- What is left behind a run is what follows it. -/
theorem dropWhile_append_of_begins : (u ++ t).dropWhile p = t := by
  rw [List.dropWhile_append_of_pos hrun]
  cases t with
  | nil => rfl
  | cons c t => rw [List.dropWhile_cons, begins_cons.mp ht]; rfl

end

/-! ## Runs that have stopped -/

/-- What is left behind a run begins with no character of the run. -/
theorem begins_dropWhile (p : Char → Bool) (t : Text) : Begins (p · = false) (t.dropWhile p) := by
  intro c hc
  have h := List.head?_dropWhile_not p t
  rw [Option.mem_def.mp hc] at h
  exact h

section

variable {p : Char → Bool} (h : t.dropWhile p ≠ [])
include h

/-- A run that stops inside a text stops there whatever follows the text. -/
theorem takeWhile_append_of_dropWhile_ne_nil (u : Text) :
    (t ++ u).takeWhile p = t.takeWhile p := by
  have hstop := (begins_dropWhile p t).append_of_ne_nil h u
  have hrun : ∀ c ∈ t.takeWhile p, p c = true := List.all_eq_true.mp List.all_takeWhile
  calc (t ++ u).takeWhile p
      = (t.takeWhile p ++ (t.dropWhile p ++ u)).takeWhile p := by
        rw [← List.append_assoc, List.takeWhile_append_dropWhile]
    _ = t.takeWhile p := takeWhile_append_of_begins hrun hstop

theorem dropWhile_append_of_dropWhile_ne_nil (u : Text) :
    (t ++ u).dropWhile p = t.dropWhile p ++ u := by
  rw [List.dropWhile_append, if_neg (by simpa using h)]

end

end EscapeOnce.Text
