import EscapeOnce.Error
import Mathlib.Data.List.Forall2

/-!
# Outcomes of operations that can fail

A sequence of steps succeeds exactly when each of them does, and an image of an outcome is the image
of its value.  Every proof about an operation that can fail takes it apart by these lemmas, one step
at a time.  An operation that takes the items of a list in turn has the values of the items in their
places (`mapM_eq_ok_iff`), and fails with the first item that does (`eq_error_iff_of_cons`).

A sequence of steps fails in no other way than one of its steps does, so a property of all failures
is put together from the steps (`FailsWith`).
-/

namespace EscapeOnce.Outcome

variable {ε α β γ : Type}

theorem bind_eq_ok {x : Except ε α} {f : α → Except ε β} {b : β} :
    x >>= f = .ok b ↔ ∃ a, x = .ok a ∧ f a = .ok b := by
  constructor
  · intro h
    cases x with
    | error e => cases h
    | ok a => exact ⟨a, rfl, h⟩
  · rintro ⟨a, rfl, h⟩
    exact h

theorem map_eq_ok {x : Except ε α} {f : α → β} {b : β} :
    x.map f = .ok b ↔ ∃ a, x = .ok a ∧ f a = b := by
  constructor
  · intro h
    cases x with
    | error e => cases h
    | ok a => exact ⟨a, rfl, Except.ok.inj h⟩
  · rintro ⟨a, rfl, rfl⟩
    rfl

theorem eq_ok_of_toOption {x : Except ε α} {a : α} (h : x.toOption = some a) : x = .ok a := by
  cases x <;> cases h
  rfl

/-- The image of a sequence of steps is the sequence with the image of its last step. -/
theorem map_bind {x : Except ε α} {f : α → Except ε β} {g : β → γ} :
    (x >>= f).map g = x >>= fun a => (f a).map g := by
  cases x <;> rfl

/-- A step that goes on from an image goes on from its value. -/
theorem bind_map {x : Except ε α} {f : α → β} {g : β → Except ε γ} :
    x.map f >>= g = x >>= fun a => g (f a) := by
  cases x <;> rfl

theorem map_map {x : Except ε α} {f : α → β} {g : β → γ} :
    (x.map f).map g = x.map fun a => g (f a) := by
  cases x <;> rfl

theorem map_congr {x : Except ε α} {f g : α → β} (h : ∀ a, x = .ok a → f a = g a) :
    x.map f = x.map g := by
  cases x with
  | error e => rfl
  | ok a => exact congrArg Except.ok (h a rfl)

theorem bind_congr {x : Except ε α} {f g : α → Except ε β} (h : ∀ a, x = .ok a → f a = g a) :
    x >>= f = x >>= g := by
  cases x with
  | error e => rfl
  | ok a => exact h a rfl

/-- A step that adds nothing does nothing. -/
theorem bind_append_nil {x : Except ε (List α)} : (x >>= fun t => .ok (t ++ [])) = x := by
  cases x with
  | error e => rfl
  | ok t => exact congrArg Except.ok (List.append_nil t)

/-- A sequence of steps fails exactly if the first step does, or what follows its value. -/
theorem exists_bind_eq_error_iff {x : Except ε α} {f : α → Except ε β} :
    (∃ e, x >>= f = .error e) ↔ (∃ e, x = .error e) ∨ ∃ a, x = .ok a ∧ ∃ e, f a = .error e := by
  cases x with
  | error e => exact ⟨fun _ => Or.inl ⟨e, rfl⟩, fun _ => ⟨e, rfl⟩⟩
  | ok a =>
    constructor
    · exact fun h => Or.inr ⟨a, rfl, h⟩
    · rintro (⟨e, h⟩ | ⟨b, h, hfails⟩)
      · cases h
      · cases h
        exact hfails

theorem exists_map_eq_error_iff {x : Except ε α} {f : α → β} :
    (∃ e, x.map f = .error e) ↔ ∃ e, x = .error e := by
  cases x with
  | error e => exact ⟨fun _ => ⟨e, rfl⟩, fun _ => ⟨e, rfl⟩⟩
  | ok a => constructor <;> rintro ⟨e, h⟩ <;> cases h

/-- A list of outcomes succeeds with a list of values exactly if each of them does with the value in
its place. -/
theorem mapM_eq_ok_iff {f : α → Except ε β} {items : List α} {results : List β} :
    items.mapM f = .ok results ↔ List.Forall₂ (fun a b => f a = .ok b) items results := by
  constructor
  · intro h
    induction items generalizing results with
    | nil =>
      cases h
      exact .nil
    | cons a items ih =>
      rw [List.mapM_cons] at h
      obtain ⟨b, hb, h⟩ := bind_eq_ok.mp h
      obtain ⟨rest, hrest, h⟩ := bind_eq_ok.mp h
      cases h
      exact .cons hb (ih hrest)
  · intro h
    induction h with
    | nil => rfl
    | cons hb _ ih =>
      rw [List.mapM_cons, hb, ih]
      rfl

section

variable {f : α → Except ε β} {items : List α} {results : List β} (h : items.mapM f = .ok results)
include h

theorem length_of_mapM_eq_ok : results.length = items.length := (mapM_eq_ok_iff.mp h).length_eq.symm

theorem exists_eq_ok_of_mapM_eq_ok {a : α} (ha : a ∈ items) : ∃ b, f a = .ok b := by
  have hpairs : List.Forall₂ (fun a b => (∃ c, f a = .ok c) ∧ f a = .ok b) items results :=
    (mapM_eq_ok_iff.mp h).imp fun a b hb => ⟨⟨b, hb⟩, hb⟩
  exact ((List.forall₂_and_left _ _).mp hpairs).1 a ha

theorem exists_eq_ok_of_mem_results {b : β} (hb : b ∈ results) : ∃ a ∈ items, f a = .ok b := by
  have hpairs : List.Forall₂ (fun a b => a ∈ items ∧ f a = .ok b) items results :=
    (List.forall₂_and_left _ _).mpr ⟨fun _ ha => ha, mapM_eq_ok_iff.mp h⟩
  have hflipped :
      List.Forall₂ (fun b a => (∃ a ∈ items, f a = .ok b) ∧ f a = .ok b) results items :=
    (hpairs.imp fun a b hab => ⟨⟨a, hab⟩, hab.2⟩).flip
  exact ((List.forall₂_and_left _ _).mp hflipped).1 b hb

/-- The values are those of a function that gives each of them. -/
theorem map_eq_of_mapM_eq_ok {g : α → β} (hg : ∀ a b, f a = .ok b → g a = b) :
    items.map g = results := by
  rw [← List.forall₂_eq_eq_eq, List.forall₂_map_left_iff]
  exact (mapM_eq_ok_iff.mp h).imp hg

end

/-- A list of outcomes of which each succeeds. -/
theorem exists_mapM_eq_ok {f : α → Except ε β} {items : List α}
    (h : ∀ a ∈ items, ∃ b, f a = .ok b) : ∃ results, items.mapM f = .ok results := by
  induction items with
  | nil => exact ⟨[], rfl⟩
  | cons a items ih =>
    obtain ⟨⟨b, hb⟩, hitems⟩ := List.forall_mem_cons.mp h
    obtain ⟨rest, hrest⟩ := ih hitems
    refine ⟨b :: rest, ?_⟩
    rw [List.mapM_cons, hb, hrest]
    rfl

/-- A list of outcomes fails exactly if one of them does. -/
theorem exists_mapM_eq_error_iff {f : α → Except ε β} {items : List α} :
    (∃ e, items.mapM f = .error e) ↔ ∃ a ∈ items, ∃ e, f a = .error e := by
  constructor
  · rintro ⟨e, he⟩
    refine Classical.byContradiction fun hnone => ?_
    have hall : ∀ a ∈ items, ∃ b, f a = .ok b := by
      intro a ha
      cases hfa : f a with
      | error e => exact absurd ⟨a, ha, e, hfa⟩ hnone
      | ok b => exact ⟨b, rfl⟩
    obtain ⟨results, hresults⟩ := exists_mapM_eq_ok hall
    cases hresults.symm.trans he
  · rintro ⟨a, ha, e, he⟩
    cases hitems : items.mapM f with
    | error e => exact ⟨e, rfl⟩
    | ok results =>
      obtain ⟨b, hb⟩ := exists_eq_ok_of_mapM_eq_ok hitems ha
      cases hb.symm.trans he

/-- A list of images of outcomes is the list of the images. -/
theorem mapM_map_eq {f : α → Except ε β} {g : β → γ} (items : List α) :
    (items.mapM fun a => (f a).map g) = (items.mapM f).map (List.map g) := by
  induction items with
  | nil => rfl
  | cons a items ih =>
    rw [List.mapM_cons, List.mapM_cons, ih, bind_map, map_bind]
    refine bind_congr fun b _ => ?_
    cases items.mapM f <;> rfl

/-- A walk over a list that takes one step for each item, and goes on only from one that succeeds,
fails as its first failing step does. -/
theorem eq_error_iff_of_cons (step : α → Except ε β) (walk : List α → Except ε γ)
    {join : α → β → γ → γ} (hnil : ∃ c, walk [] = .ok c)
    (hcons : ∀ a items, walk (a :: items) = step a >>= fun b => (walk items).map (join a b))
    {items : List α} {e : ε} :
    walk items = .error e ↔
      ∃ before a after, items = before ++ a :: after ∧
        (∀ u ∈ before, ∃ b, step u = .ok b) ∧ step a = .error e := by
  induction items with
  | nil =>
    obtain ⟨c, hc⟩ := hnil
    constructor
    · intro h
      cases hc.symm.trans h
    · rintro ⟨before, a, after, hitems, -⟩
      exact absurd hitems (by simp)
  | cons w items ih =>
    have hhead : walk (w :: items) = .error e ↔
        step w = .error e ∨ (∃ b, step w = .ok b) ∧ walk items = .error e := by
      rw [hcons]
      cases step w with
      | error f => simp [bind, Except.bind]
      | ok b => cases walk items <;> simp [bind, Except.bind, Except.map]
    rw [hhead, ih]
    constructor
    · rintro (hw | ⟨hw, before, a, after, rfl, hbefore, ha⟩)
      · exact ⟨[], w, items, rfl, fun u hu => absurd hu List.not_mem_nil, hw⟩
      · exact ⟨w :: before, a, after, rfl, List.forall_mem_cons.mpr ⟨hw, hbefore⟩, ha⟩
    · rintro ⟨before, a, after, hitems, hbefore, ha⟩
      cases before with
      | nil =>
        obtain ⟨rfl, -⟩ := List.cons.inj hitems
        exact Or.inl ha
      | cons u before =>
        obtain ⟨rfl, hrest⟩ := List.cons.inj hitems
        obtain ⟨hw, hothers⟩ := List.forall_mem_cons.mp hbefore
        exact Or.inr ⟨hw, before, a, after, hrest, hothers, ha⟩

/-! ## Ways to fail -/

/-- Every failure has the property `P`. -/
def FailsWith (P : ε → Prop) (x : Except ε α) : Prop := ∀ e, x = .error e → P e

section

variable {P : ε → Prop}

theorem failsWith_ok {a : α} : FailsWith P (.ok a) := nofun

theorem failsWith_error {e : ε} (h : P e) : FailsWith P (.error e : Except ε α) := by
  rintro _ ⟨⟩
  exact h

theorem FailsWith.bind {x : Except ε α} {f : α → Except ε β} (hx : FailsWith P x)
    (hf : ∀ a, FailsWith P (f a)) : FailsWith P (x >>= f) := by
  intro e h
  cases x with
  | error other =>
    cases h
    exact hx e rfl
  | ok a => exact hf a e h

theorem FailsWith.map {x : Except ε α} (hx : FailsWith P x) {f : α → β} :
    FailsWith P (x.map f) := by
  intro e h
  cases x with
  | error other =>
    cases h
    exact hx e rfl
  | ok a => cases h

theorem FailsWith.imp {Q : ε → Prop} {x : Except ε α} (hx : FailsWith P x) (h : ∀ e, P e → Q e) :
    FailsWith Q x := fun e he => h e (hx e he)

theorem FailsWith.mapM {f : α → Except ε β} (hf : ∀ a, FailsWith P (f a)) (items : List α) :
    FailsWith P (items.mapM f) := by
  induction items with
  | nil => exact failsWith_ok
  | cons a items ih =>
    rw [List.mapM_cons]
    exact (hf a).bind fun _ => ih.bind fun _ => failsWith_ok

end

end EscapeOnce.Outcome

namespace EscapeOnce.MarkupError

variable {α β : Type}

theorem ofFormat_eq_ok {x : Except FormatError α} {a : α} : ofFormat x = .ok a ↔ x = .ok a := by
  cases x with
  | error e => constructor <;> intro h <;> cases h
  | ok b => constructor <;> intro h <;> cases h <;> rfl

theorem ofFormat_map (x : Except FormatError α) (f : α → β) :
    ofFormat (x.map f) = (ofFormat x).map f := by
  cases x <;> rfl

theorem ofFormat_bind (x : Except FormatError α) (f : α → Except FormatError β) :
    ofFormat (x >>= f) = ofFormat x >>= fun a => ofFormat (f a) := by
  cases x <;> rfl

theorem failsWith_ofFormat {P : FormatError → Prop} {Q : MarkupError → Prop}
    {x : Except FormatError α} (hx : Outcome.FailsWith P x) (h : ∀ e, P e → Q (.format e)) :
    Outcome.FailsWith Q (ofFormat x) := by
  intro e he
  cases x with
  | ok a => cases he
  | error f =>
    cases he
    exact h f (hx f rfl)

theorem toOption_ofFormat (x : Except FormatError α) : (ofFormat x).toOption = x.toOption := by
  cases x <;> rfl

end EscapeOnce.MarkupError
