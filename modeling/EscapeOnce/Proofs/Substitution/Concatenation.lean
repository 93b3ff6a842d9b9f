import EscapeOnce.Proofs.Substitution.Fill
import EscapeOnce.Proofs.Template.Concatenation
import Mathlib.Data.List.Basic

/-!
# Substitution goes piece by piece

Two templates, one behind the other, are filled in as the first with its arguments and then the
second with its own (`substitute_append`).  Reading leaves no part of one in the other, so all that
can go wrong at the seam is which argument a placeholder takes.

A percent template takes its positional arguments in turn and all of them, so behind the first
template the arguments are those of the second, and named arguments are there for both.  What the
two templates take and what both together take is a relation between arguments that each directive
keeps (`Percent.Joined`).

A brace template carries its numbering across the seam.  Behind a template that numbers its fields
itself it is that of a template that does, which differs from none only for fields that are numbered
by turns.  Behind `k` fields numbered by turns the next argument is the one at `k`, which is the
first of the second template if the arguments of the first were `k`.  Both are cases of one lemma: a
run goes on as it is when its arguments and its numbering are replaced by others under which each
field finds the same value (`Brace.fill_of_simulates`).
-/

namespace EscapeOnce

open Outcome

/-! ## Percent templates -/

namespace Percent

/-- The arguments of two templates and of both, one behind the other. -/
inductive Joined : Arguments → Arguments → Arguments → Prop
  | positional (a b : List Value) : Joined (.positional a) (.positional b) (.positional (a ++ b))
  | named (entries : Dict Value) : Joined (.named entries) (.named entries) (.named entries)

variable {args later all : Arguments}

/-- A directive of the first template takes the same value when there are more arguments. -/
theorem Joined.argument (h : Joined args later all) {key : Option Text} {v : Value}
    {after : Arguments} (hargument : argument args key = .ok (v, after)) :
    ∃ rest, Percent.argument all key = .ok (v, rest) ∧ Joined after later rest := by
  cases h with
  | positional a b =>
    match key, a, hargument with
    | none, w :: a, hargument =>
      cases hargument
      exact ⟨_, rfl, .positional a b⟩
  | named entries =>
    match key, hargument with
    | none, hargument =>
      cases hargument
      exact ⟨_, rfl, .named entries⟩
    | some key, hargument =>
      refine ⟨after, hargument, ?_⟩
      simp only [Percent.argument] at hargument
      split at hargument
      · cases hargument
        exact .named entries
      · cases hargument

/-- Where nothing is left over of the first arguments, the others are what there is. -/
theorem Joined.eq_of_finish (h : Joined args later all) (hfinish : finish args = .ok ()) :
    all = later := by
  cases h with
  | positional a b =>
    cases a with
    | nil => rfl
    | cons v a => cases hfinish
  | named entries => rfl

variable (render : Value → Directive → Except MarkupError Text)

theorem fault?_eq_none_of_fill_eq_ok {s : Script Directive} {o : Text}
    (h : fill render args s = .ok o) : s.fault? = none := by
  induction s generalizing args o with
  | done => rfl
  | fault error => cases h
  | literal c rest ih =>
    rw [fill_literal] at h
    obtain ⟨others, hothers, -⟩ := map_eq_ok.mp h
    exact ih hothers
  | directive d rest ih =>
    obtain ⟨v, after, first, others, -, -, hothers, -⟩ := (fill_directive_eq_ok render args).mp h
    exact ih hothers

/-- The induction is on the first template, from any arguments that are left. -/
theorem fill_append (h : Joined args later all) {s t : Script Directive} {o p : Text}
    (hs : fill render args s = .ok o) (ht : fill render later t = .ok p) :
    fill render all (s.append t) = .ok (o ++ p) := by
  induction s generalizing args all o with
  | done =>
    obtain ⟨⟨⟩, hfinish, hnil⟩ := bind_eq_ok.mp hs
    cases hnil
    rw [h.eq_of_finish (MarkupError.ofFormat_eq_ok.mp hfinish)]
    exact ht
  | fault error => cases hs
  | literal c rest ih =>
    rw [fill_literal] at hs
    obtain ⟨others, hothers, rfl⟩ := map_eq_ok.mp hs
    rw [Script.append, fill_literal, ih h hothers]
    rfl
  | directive d rest ih =>
    obtain ⟨v, after, first, others, hargument, hfirst, hothers, rfl⟩ :=
      (fill_directive_eq_ok render args).mp hs
    obtain ⟨left, hall, hjoined⟩ := h.argument hargument
    exact (fill_directive_eq_ok render all).mpr ⟨v, left, first, others ++ p, hall, hfirst,
      ih hjoined hothers, (List.append_assoc ..).symm⟩

end Percent

/-! ## Brace templates -/

namespace Brace

/-- The numbering behind a field. -/
def Numbering.behind (numbering : Numbering) : ArgumentName → Numbering
  | .name _ => numbering
  | .index _ => manual
  | .automatic =>
    match numbering with
    | unset => automatic 1
    | automatic next => automatic (next + 1)
    | manual => manual

/-- The numbering behind several fields. -/
def Numbering.through (numbering : Numbering) (fields : List Field) : Numbering :=
  fields.foldl (fun numbering field => numbering.behind field.argument) numbering

section Runs

variable (render : Value → Field → Except MarkupError Text) (args : List Value)
  (named : Dict Value)

theorem eq_behind_of_argument_eq_ok {numbering after : Numbering} {name : ArgumentName} {v : Value}
    (h : argument args named numbering name = .ok (v, after)) : after = numbering.behind name := by
  cases name with
  | name key =>
    rw [argument_name] at h
    obtain ⟨w, -, heq⟩ := map_eq_ok.mp h
    cases heq
    rfl
  | automatic =>
    obtain ⟨index, hnext, h⟩ := bind_eq_ok.mp h
    obtain ⟨w, -, h⟩ := bind_eq_ok.mp h
    cases h
    cases numbering with
    | unset =>
      cases hnext
      rfl
    | automatic next =>
      cases hnext
      rfl
    | manual => cases hnext
  | index i =>
    cases numbering with
    | automatic next => cases h
    | unset =>
      obtain ⟨w, -, h⟩ := bind_eq_ok.mp h
      cases h
      rfl
    | manual =>
      obtain ⟨w, -, h⟩ := bind_eq_ok.mp h
      cases h
      rfl

theorem fault?_eq_none_of_fill_eq_ok {numbering : Numbering} {s : Script Field} {o : Text}
    (h : fill render args named numbering s = .ok o) : s.fault? = none := by
  induction s generalizing numbering o with
  | done => rfl
  | fault error => cases h
  | literal c rest ih =>
    rw [fill_literal] at h
    obtain ⟨others, hothers, -⟩ := map_eq_ok.mp h
    exact ih hothers
  | directive field rest ih =>
    obtain ⟨v, after, first, others, -, -, hothers, -⟩ :=
      (fill_directive_eq_ok render args named numbering).mp h
    exact ih hothers

/-- Behind a template the run goes on with the numbering that its fields have left. -/
theorem fill_append {numbering : Numbering} {s t : Script Field} {o p : Text}
    (hs : fill render args named numbering s = .ok o)
    (ht : fill render args named (numbering.through s.directives) t = .ok p) :
    fill render args named numbering (s.append t) = .ok (o ++ p) := by
  induction s generalizing numbering o with
  | done =>
    cases hs
    exact ht
  | fault error => cases hs
  | literal c rest ih =>
    rw [fill_literal] at hs
    obtain ⟨others, hothers, rfl⟩ := map_eq_ok.mp hs
    rw [Script.append, fill_literal, ih hothers ht]
    rfl
  | directive field rest ih =>
    obtain ⟨v, after, first, others, hargument, hfirst, hothers, rfl⟩ :=
      (fill_directive_eq_ok render args named numbering).mp hs
    obtain rfl := eq_behind_of_argument_eq_ok args named hargument
    exact (fill_directive_eq_ok render args named numbering).mpr ⟨v, _, first, others ++ p,
      hargument, hfirst, ih hothers ht, (List.append_assoc ..).symm⟩

/-- A run goes on as it is under other arguments and another numbering, if a relation between the
numberings lets each of its fields find the same value and holds again behind it. -/
theorem fill_of_simulates {others : List Value} {R : Numbering → Numbering → Prop}
    {s : Script Field} (hstep : ∀ field ∈ s.directives, ∀ n m v after, R n m →
      argument args named n field.argument = .ok (v, after) →
      ∃ later, argument others named m field.argument = .ok (v, later) ∧ R after later)
    {n m : Numbering} (hR : R n m) {o : Text} (h : fill render args named n s = .ok o) :
    fill render others named m s = .ok o := by
  induction s generalizing n m o with
  | done => exact h
  | fault error => cases h
  | literal c rest ih =>
    rw [fill_literal] at h
    obtain ⟨tail, htail, rfl⟩ := map_eq_ok.mp h
    rw [fill_literal, ih hstep hR htail]
    rfl
  | directive field rest ih =>
    obtain ⟨v, after, first, tail, hargument, hfirst, htail, rfl⟩ :=
      (fill_directive_eq_ok render args named n).mp h
    obtain ⟨later, hfound, hlater⟩ := hstep field List.mem_cons_self n m v after hR hargument
    exact (fill_directive_eq_ok render others named m).mpr ⟨v, later, first, tail, hfound, hfirst,
      ih (fun f hf => hstep f (List.mem_cons_of_mem _ hf)) hlater htail, rfl⟩

end Runs

/-! ### Fields numbered by the template -/

/-- No field has been numbered by turns. -/
def Numbering.IsFixed (numbering : Numbering) : Prop := numbering = unset ∨ numbering = manual

theorem Numbering.IsFixed.through {numbering : Numbering} (h : numbering.IsFixed)
    {fields : List Field} (hfields : ∀ field ∈ fields, field.argument ≠ .automatic) :
    (numbering.through fields).IsFixed := by
  induction fields generalizing numbering with
  | nil => exact h
  | cons field fields ih =>
    obtain ⟨hfield, hrest⟩ := List.forall_mem_cons.mp hfields
    have hbehind : (numbering.behind field.argument).IsFixed := by
      cases hname : field.argument with
      | automatic => exact absurd hname hfield
      | name key => exact h
      | index i => exact Or.inr rfl
    exact ih hbehind hrest

variable {named : Dict Value}

/-- A field with an index takes the argument there, if no field before it was numbered by turns. -/
theorem argument_index_of_isFixed (args : List Value) {n : Numbering} (h : n.IsFixed)
    (index : Nat) :
    argument args named n (.index index) = (positional args index).map (·, .manual) := by
  rcases h with rfl | rfl <;> rfl

/-- A field with a name or an index finds its argument whatever other such fields came before it. -/
theorem argument_of_isFixed {args : List Value} {n m : Numbering} (hn : n.IsFixed) (hm : m.IsFixed)
    {name : ArgumentName} (hname : name ≠ .automatic) {v : Value} {after : Numbering}
    (h : argument args named n name = .ok (v, after)) :
    ∃ later, argument args named m name = .ok (v, later) ∧ after.IsFixed ∧ later.IsFixed := by
  cases name with
  | automatic => exact absurd rfl hname
  | name key =>
    rw [argument_name] at h
    obtain ⟨w, hw, heq⟩ := map_eq_ok.mp h
    cases heq
    exact ⟨m, by rw [argument_name, hw]; rfl, hn, hm⟩
  | index i =>
    rw [argument_index_of_isFixed args hn] at h
    obtain ⟨w, hw, heq⟩ := map_eq_ok.mp h
    cases heq
    rw [argument_index_of_isFixed args hm, hw]
    exact ⟨.manual, rfl, Or.inr rfl, Or.inr rfl⟩

/-! ### Fields numbered by turns -/

theorem positional_eq_ok {args : List Value} {index : Nat} {v : Value} :
    positional args index = .ok v ↔ args[index]? = some v := by
  rw [positional]
  cases args[index]? <;> simp

theorem positional_append {a b : List Value} {index : Nat} {v : Value}
    (h : positional a index = .ok v) : positional (a ++ b) index = .ok v := by
  have hv := positional_eq_ok.mp h
  have hlt : index < a.length := (List.getElem?_eq_some_iff.mp hv).1
  exact positional_eq_ok.mpr ((List.getElem?_append_left hlt).trans hv)

theorem positional_append_right {a b : List Value} {index : Nat} {v : Value}
    (h : positional b index = .ok v) : positional (a ++ b) (a.length + index) = .ok v := by
  refine positional_eq_ok.mpr ?_
  rw [List.getElem?_append_right (Nat.le_add_right ..), Nat.add_sub_cancel_left]
  exact positional_eq_ok.mp h

/-- A field finds its argument when there are more of them. -/
theorem argument_append {a b : List Value} {n : Numbering} {name : ArgumentName} {v : Value}
    {after : Numbering} (h : argument a named n name = .ok (v, after)) :
    argument (a ++ b) named n name = .ok (v, after) := by
  cases name with
  | name key => exact h
  | automatic =>
    obtain ⟨index, hnext, -⟩ := bind_eq_ok.mp h
    rw [argument_automatic _ _ _ hnext] at h ⊢
    obtain ⟨w, hw, heq⟩ := map_eq_ok.mp h
    rw [positional_append hw]
    exact congrArg Except.ok heq
  | index i =>
    have hfixed : n.IsFixed := by
      cases n with
      | unset => exact Or.inl rfl
      | automatic next => cases h
      | manual => exact Or.inr rfl
    rw [argument_index_of_isFixed _ hfixed] at h ⊢
    obtain ⟨w, hw, heq⟩ := map_eq_ok.mp h
    rw [positional_append hw]
    exact congrArg Except.ok heq

theorem Numbering.next_through {numbering : Numbering} {k : Nat} (h : numbering.next = .ok k)
    {fields : List Field} (hfields : ∀ field ∈ fields, ∀ i, field.argument ≠ .index i) :
    (numbering.through fields).next = .ok (k + fields.countP (·.argument = .automatic)) := by
  induction fields generalizing numbering k with
  | nil => exact h
  | cons field fields ih =>
    obtain ⟨hfield, hrest⟩ := List.forall_mem_cons.mp hfields
    show ((numbering.behind field.argument).through fields).next = _
    cases hname : field.argument with
    | index i => exact absurd hname (hfield i)
    | name key =>
      have hcount : (field :: fields).countP (·.argument = .automatic) =
          fields.countP (·.argument = .automatic) := List.countP_cons_of_neg (by simp [hname])
      rw [hcount]
      exact ih h hrest
    | automatic =>
      have hnext : (numbering.behind .automatic).next = .ok (k + 1) := by
        cases numbering with
        | unset =>
          cases h
          rfl
        | automatic next =>
          cases h
          rfl
        | manual => cases h
      have hcount : (field :: fields).countP (·.argument = .automatic) =
          fields.countP (·.argument = .automatic) + 1 := List.countP_cons_of_pos (by simp [hname])
      rw [ih hnext hrest, hcount]
      congr 1
      omega

/-- A field without an index finds its argument when there are more arguments in front of it and the
numbering counts them. -/
theorem argument_append_right {a b : List Value} {n m : Numbering} {k : Nat}
    (hn : n.next = .ok k) (hm : m.next = .ok (a.length + k)) {name : ArgumentName}
    (hname : ∀ i, name ≠ .index i) {v : Value} {after : Numbering}
    (h : argument b named n name = .ok (v, after)) :
    ∃ later, argument (a ++ b) named m name = .ok (v, later) ∧
      ∃ l, after.next = .ok l ∧ later.next = .ok (a.length + l) := by
  cases name with
  | index i => exact absurd rfl (hname i)
  | name key =>
    rw [argument_name] at h
    obtain ⟨w, hw, heq⟩ := map_eq_ok.mp h
    cases heq
    exact ⟨m, by rw [argument_name, hw]; rfl, k, hn, hm⟩
  | automatic =>
    rw [argument_automatic _ _ _ hn] at h
    obtain ⟨w, hw, heq⟩ := map_eq_ok.mp h
    cases heq
    refine ⟨.automatic (a.length + k + 1), ?_, k + 1, rfl, congrArg Except.ok (Nat.add_assoc ..)⟩
    rw [argument_automatic _ _ _ hm, positional_append_right hw]
    rfl

end Brace

/-! ## Templates one behind the other -/

/-- Two templates, one behind the other, are filled in as each of them is.  In the percent style the
positional arguments of the first come before those of the second, and named arguments are shared.
In the brace style, if no field is numbered by turns, all arguments are shared; if no field has an
index and the first template has as many fields numbered by turns as it has positional arguments,
those of the second come behind. -/
theorem substitute_append (t u : Text) :
    (∀ (a b : List Value) (o p : Text),
      Percent.substitute t (.positional a) = .ok o → Percent.substitute u (.positional b) = .ok p →
      Percent.substitute (t ++ u) (.positional (a ++ b)) = .ok (o ++ p)) ∧
    (∀ (entries : Dict Value) (o p : Text),
      Percent.substitute t (.named entries) = .ok o →
      Percent.substitute u (.named entries) = .ok p →
      Percent.substitute (t ++ u) (.named entries) = .ok (o ++ p)) ∧
    (∀ (args : List Value) (named : Dict Value) (o p : Text),
      (∀ field ∈ (Field.script t).directives ++ (Field.script u).directives,
        field.argument ≠ .automatic) →
      Brace.substitute t args named = .ok o → Brace.substitute u args named = .ok p →
      Brace.substitute (t ++ u) args named = .ok (o ++ p)) ∧
    ∀ (a b : List Value) (named : Dict Value) (o p : Text),
      (∀ field ∈ (Field.script t).directives ++ (Field.script u).directives,
        ∀ i, field.argument ≠ .index i) →
      (Field.script t).directives.countP (·.argument = .automatic) = a.length →
      Brace.substitute t a named = .ok o → Brace.substitute u b named = .ok p →
      Brace.substitute (t ++ u) (a ++ b) named = .ok (o ++ p) := by
  have hpercent : ∀ {args later all : Arguments} {o p : Text}, Percent.Joined args later all →
      Percent.substitute t args = .ok o → Percent.substitute u later = .ok p →
      Percent.substitute (t ++ u) all = .ok (o ++ p) := by
    intro args later all o p hjoined ht hu
    have hread := Percent.fault?_eq_none_of_fill_eq_ok _ ht
    rw [Percent.substitute, Directive.script_append_of_fault?_eq_none hread]
    exact Percent.fill_append _ hjoined ht hu
  refine ⟨fun a b o p => hpercent (.positional a b), fun entries o p => hpercent (.named entries),
    ?_, ?_⟩
  · intro args named o p hfields ht hu
    have hread := Brace.fault?_eq_none_of_fill_eq_ok _ _ _ ht
    rw [Brace.substitute, Field.script_append_of_fault?_eq_none hread]
    obtain ⟨hfirst, hsecond⟩ := List.forall_mem_append.mp hfields
    have hfixed : Brace.Numbering.unset.IsFixed := Or.inl rfl
    refine Brace.fill_append _ _ _ ht (Brace.fill_of_simulates _ _ _
      (R := fun n m => n.IsFixed ∧ m.IsFixed) ?_ ⟨hfixed, hfixed.through hfirst⟩ hu)
    intro field hfield n m v after hnumbering
    exact Brace.argument_of_isFixed hnumbering.1 hnumbering.2 (hsecond field hfield)
  · intro a b named o p hfields hcount ht hu
    have hread := Brace.fault?_eq_none_of_fill_eq_ok _ _ _ ht
    rw [Brace.substitute, Field.script_append_of_fault?_eq_none hread]
    obtain ⟨hfirst, hsecond⟩ := List.forall_mem_append.mp hfields
    have hstart : Brace.Numbering.unset.next = .ok 0 := rfl
    have hnext := Brace.Numbering.next_through hstart hfirst
    rw [hcount, Nat.zero_add] at hnext
    have hmore : Brace.fill Brace.renderField (a ++ b) named .unset (Field.script t) = .ok o :=
      Brace.fill_of_simulates _ _ _ (R := Eq) (fun field _ n m v after hnumbering hargument =>
        ⟨after, hnumbering ▸ Brace.argument_append hargument, rfl⟩) rfl ht
    refine Brace.fill_append _ _ _ hmore (Brace.fill_of_simulates _ _ _
      (R := fun n m => ∃ k, n.next = .ok k ∧ m.next = .ok (a.length + k)) ?_ ⟨0, rfl, hnext⟩ hu)
    rintro field hfield n m v after ⟨k, hn, hm⟩
    exact Brace.argument_append_right hn hm (hsecond field hfield)

/-- The percent sign in front of the first seam is the second of a doubled one and that behind it
opens a directive.  At the third seam a doubled brace and one that opens a field stand side by side,
behind a key that is a pair of braces.  At the last one the numbering goes on. -/
theorem substitute_append_seams :
    Percent.substitute "%5s%%%d|%r".toList (.positional [.str ['<'], .int 7, .null]) =
      .ok "    &lt;%7|null".toList ∧
    Percent.substitute "%(k(1))s%% %(k(1))r".toList (.named [("k(1)".toList, .int 1)]) =
      .ok "1% 1".toList ∧
    Brace.substitute "{0[{}]}\x7b\x7b{n!r:>8}".toList [.map [("{}".toList, .int 1)]]
      [(['n'], .bool true)] = .ok "1\x7b    true".toList ∧
    Brace.substitute "{}{n}{:>3}\x7d\x7d".toList [.int 1, .int 2] [(['n'], .bool true)] =
      .ok "1true  2\x7d".toList := by
  have hpositional := (substitute_append "%5s%%".toList "%d|%r".toList).1
    [.str ['<']] [.int 7, .null] "    &lt;%".toList "7|null".toList
    (by decide +kernel) (by decide +kernel)
  have hmapping := (substitute_append "%(k(1))s".toList "%% %(k(1))r".toList).2.1
    [("k(1)".toList, .int 1)] "1".toList "% 1".toList (by decide +kernel) (by decide +kernel)
  have hshared := (substitute_append "{0[{}]}\x7b\x7b".toList "{n!r:>8}".toList).2.2.1
    [.map [("{}".toList, .int 1)]] [(['n'], .bool true)] "1\x7b".toList "    true".toList
    (by decide +kernel) (by decide +kernel) (by decide +kernel)
  have hunindexed : ∀ field ∈ (Field.script "{}{n}".toList).directives ++
      (Field.script "{:>3}\x7d\x7d".toList).directives, ∀ i, field.argument ≠ .index i := by
    have hall : ∀ field ∈ (Field.script "{}{n}".toList).directives ++
        (Field.script "{:>3}\x7d\x7d".toList).directives,
        field.argument = .automatic ∨ field.argument = .name ['n'] := by decide +kernel
    intro field hfield i
    rcases hall field hfield with h | h <;> rw [h] <;> exact nofun
  have hbyturns := (substitute_append "{}{n}".toList "{:>3}\x7d\x7d".toList).2.2.2 [.int 1] [.int 2]
    [(['n'], .bool true)] "1true".toList "  2\x7d".toList hunindexed (by decide +kernel)
    (by decide +kernel) (by decide +kernel)
  exact ⟨hpositional, hmapping, hshared, hbyturns⟩

end EscapeOnce
