import EscapeOnce.Proofs.Substitution.Concatenation
import EscapeOnce.Proofs.Substitution.Failures

/-!
# Every positional argument is taken exactly once

A percent template fills its directives in from left to right and carries along which positional
arguments are left.  A run over positional arguments is therefore the list of the directives side by
side with the list of the values: the directives and values at the same place are rendered, and at
the end the lengths of the two lists are compared (`Percent.fill_positional`).  Literal text takes
nothing, and a doubled percent sign is literal text.

Named arguments are never used up, so there is nothing to carry along, and a run is what each
directive shows of the entries by itself (`Percent.fill_named`).  Then no count can be wrong, and
what fails is a directive or a look-up.
-/

namespace EscapeOnce

open Outcome

namespace Script

variable {δ : Type}

/-- The literal text of a template with texts in the places of its directives. -/
def interleave : Script δ → List Text → Text
  | done, _ => []
  | fault _, _ => []
  | literal c rest, texts => c :: rest.interleave texts
  | directive _ rest, texts => texts.headD [] ++ rest.interleave texts.tail

/-- What is behind the last directive comes after its text: the end of the template or its fault. -/
def completed (s : Script δ) (texts : List Text) : Except MarkupError Text :=
  match s.fault? with
  | some e => .error (.format e)
  | none => .ok (s.interleave texts)

theorem completed_literal (c : Char) (rest : Script δ) (texts : List Text) :
    (literal c rest).completed texts = (rest.completed texts).map (c :: ·) := by
  rw [completed, completed, fault?]
  cases rest.fault? <;> rfl

theorem completed_directive (d : δ) (rest : Script δ) (first : Text) (texts : List Text) :
    (directive d rest).completed (first :: texts) = (rest.completed texts).map (first ++ ·) := by
  rw [completed, completed, fault?]
  cases rest.fault? <;> rfl

end Script

namespace Directive

/-- What a directive shows of named arguments: the entry under its key, or all of them. -/
def valueAmong (entries : Dict Value) (d : Directive) : Except FormatError Value :=
  match d.key with
  | some key => entries.entry key
  | none => .ok (.map entries)

end Directive

namespace Percent

variable (render : Value → Directive → Except MarkupError Text)

/-! ## Named arguments -/

/-- Named arguments are the same behind a directive as before it. -/
theorem argument_named (entries : Dict Value) (d : Directive) :
    argument (.named entries) d.key = (d.valueAmong entries).map (·, .named entries) := by
  rw [Directive.valueAmong]
  cases d.key with
  | none => rfl
  | some key =>
    show argument (.named entries) (some key) = (Dict.entry entries key).map (·, .named entries)
    rw [argument, Dict.entry]
    cases entries.get? key <;> rfl

theorem fill_named (entries : Dict Value) (s : Script Directive) :
    fill render (.named entries) s =
      (s.directives.mapM fun d => MarkupError.ofFormat (d.valueAmong entries) >>= (render · d)) >>=
        s.completed := by
  induction s with
  | done => rfl
  | fault error => rfl
  | literal c rest ih =>
    rw [fill_literal, ih, map_bind]
    exact bind_congr fun texts _ => (Script.completed_literal c rest texts).symm
  | directive d rest ih =>
    rw [fill_directive, argument_named, MarkupError.ofFormat_map, Outcome.bind_map,
      Script.directives, List.mapM_cons, bind_assoc, bind_assoc]
    refine bind_congr fun v _ => bind_congr fun first _ => ?_
    rw [ih, map_bind, bind_assoc]
    exact bind_congr fun texts _ => (Script.completed_directive d rest first texts).symm

/-- Over named arguments a template is refused for one of its directives, for a value that a
directive shows or for an entry that is missing. -/
theorem failsWith_substitute_named (t : Text) (entries : Dict Value) :
    FailsWith (fun e => e.OfDirective ∨ ∃ key, e = .format (.missingKey key))
      (substitute t (.named entries)) := by
  have hvalue : ∀ d : Directive,
      FailsWith (fun e => ∃ key, e = .missingKey key) (d.valueAmong entries) := by
    intro d
    rw [Directive.valueAmong]
    cases d.key with
    | some key =>
      show FailsWith _ (Dict.entry entries key)
      unfold Dict.entry
      split
      · exact failsWith_ok
      · exact failsWith_error ⟨key, rfl⟩
    | none => exact failsWith_ok
  have hshown : ∀ d : Directive,
      FailsWith (fun e => e.OfDirective ∨ ∃ key, e = .format (.missingKey key))
      (MarkupError.ofFormat (d.valueAmong entries) >>= (renderDirective · d)) := fun d =>
    (MarkupError.failsWith_ofFormat (hvalue d) fun _ ⟨key, hkey⟩ =>
      Or.inr ⟨key, hkey ▸ rfl⟩).bind fun v => (failsWith_renderDirective v d).imp fun _ => Or.inl
  rw [substitute, fill_named]
  refine (FailsWith.mapM hshown _).bind fun texts => ?_
  unfold Script.completed
  cases hfault : (Directive.script t).fault? with
  | some e => exact failsWith_error (Or.inl (Directive.ofDirective_of_fault?_script hfault))
  | none => exact failsWith_ok

/-! ## Positional arguments -/

/-- A directive with a key has no use for positional arguments. -/
theorem key_eq_none_of_fill_eq_ok {values : List Value} {s : Script Directive} {o : Text}
    (h : fill render (.positional values) s = .ok o) : ∀ d ∈ s.directives, d.key = none := by
  induction s generalizing values o with
  | done => exact fun d hd => absurd hd List.not_mem_nil
  | fault error => cases h
  | literal c rest ih =>
    rw [fill_literal] at h
    obtain ⟨others, hothers, -⟩ := map_eq_ok.mp h
    exact ih hothers
  | directive d rest ih =>
    obtain ⟨v, after, first, others, hargument, -, hothers, -⟩ :=
      (fill_directive_eq_ok render _).mp h
    match hkey : d.key, values, hargument with
    | none, w :: values, hargument =>
      cases hargument
      exact List.forall_mem_cons.mpr ⟨hkey, ih hothers⟩

/-- What a template without keys comes to when its directives have taken `count` values and shown
them as these texts. -/
def settled (s : Script Directive) (count : Nat) (texts : List Text) : Except MarkupError Text :=
  if count < s.directives.length then .error (.format .notEnoughArguments)
  else if s.directives.length < count then .error (.format .tooManyArguments)
  else .ok (s.interleave texts)

theorem settled_literal (c : Char) (rest : Script Directive) (count : Nat) (texts : List Text) :
    settled (.literal c rest) count texts = (settled rest count texts).map (c :: ·) := by
  rw [settled, settled, Script.directives]
  split_ifs <;> rfl

theorem settled_directive (d : Directive) (rest : Script Directive) (count : Nat) (first : Text)
    (texts : List Text) :
    settled (.directive d rest) (count + 1) (first :: texts) =
      (settled rest count texts).map (first ++ ·) := by
  simp only [settled, Script.directives, List.length_cons, Nat.add_lt_add_iff_right]
  split_ifs <;> rfl

theorem settled_eq_ok {s : Script Directive} {count : Nat} {texts : List Text} {out : Text} :
    settled s count texts = .ok out ↔ s.directives.length = count ∧ out = s.interleave texts := by
  rw [settled]
  split_ifs with hfew hmany
  · exact iff_of_false (by simp) fun h => Nat.ne_of_gt hfew h.1
  · exact iff_of_false (by simp) fun h => Nat.ne_of_lt hmany h.1
  · rw [Except.ok.injEq]
    exact ⟨fun h => ⟨by omega, h.symm⟩, fun h => h.2.symm⟩

/-- The induction is on the template, from any values that are left. -/
theorem fill_positional {s : Script Directive} (hread : s.fault? = none)
    (hkeys : ∀ d ∈ s.directives, d.key = none) (values : List Value) :
    fill render (.positional values) s =
      ((values.zip s.directives).mapM fun taken => render taken.1 taken.2) >>=
        settled s values.length := by
  induction s generalizing values with
  | done => cases values <;> rfl
  | fault error => cases hread
  | literal c rest ih =>
    rw [fill_literal, ih hread hkeys, map_bind]
    exact bind_congr fun texts _ => (settled_literal c rest values.length texts).symm
  | directive d rest ih =>
    obtain ⟨hkey, hrest⟩ := List.forall_mem_cons.mp hkeys
    cases values with
    | nil =>
      rw [fill_directive, hkey]
      rfl
    | cons v values =>
      rw [fill_directive, hkey, Script.directives, List.zip_cons_cons, List.mapM_cons, bind_assoc]
      show (render v d >>= fun first =>
        (fill render (.positional values) rest).map (first ++ ·)) = _
      refine bind_congr fun first _ => ?_
      rw [ih hread hrest, map_bind, bind_assoc]
      exact bind_congr fun texts _ => (settled_directive d rest values.length first texts).symm

end Percent

/-- A percent template succeeds over positional arguments exactly if it can be read to its end, no
directive has a key, there are as many directives as values and each directive shows the value at
its place; what comes out is the literal text with these texts in the places of the directives.  If
all of this holds but the lengths, what is wrong is told by the lengths.

Over named arguments it comes to what the directives show of the entries, each by itself, or to the
first error among them, and the number of the arguments is never wrong. -/
theorem substitute_consumes_exactly (t : Text) :
    (∀ (values : List Value) (out : Text),
      Percent.substitute t (.positional values) = .ok out ↔
        (Directive.script t).fault? = none ∧
        (∀ d ∈ (Directive.script t).directives, d.key = none) ∧
        (Directive.script t).directives.length = values.length ∧
        ∃ texts,
          ((values.zip (Directive.script t).directives).mapM fun taken =>
            Percent.renderDirective taken.1 taken.2) = .ok texts ∧
          out = (Directive.script t).interleave texts) ∧
    (∀ values : List Value,
      (Directive.script t).fault? = none →
      (∀ d ∈ (Directive.script t).directives, d.key = none) →
      (∀ taken ∈ values.zip (Directive.script t).directives,
        ∃ text, Percent.renderDirective taken.1 taken.2 = .ok text) →
      (values.length < (Directive.script t).directives.length →
        Percent.substitute t (.positional values) = .error (.format .notEnoughArguments)) ∧
      ((Directive.script t).directives.length < values.length →
        Percent.substitute t (.positional values) = .error (.format .tooManyArguments))) ∧
    ∀ entries : Dict Value,
      Percent.substitute t (.named entries) =
        ((Directive.script t).directives.mapM fun d =>
          MarkupError.ofFormat (d.valueAmong entries) >>= (Percent.renderDirective · d)) >>=
          (Directive.script t).completed ∧
      Percent.substitute t (.named entries) ≠ .error (.format .notEnoughArguments) ∧
      Percent.substitute t (.named entries) ≠ .error (.format .tooManyArguments) := by
  refine ⟨fun values out => ⟨fun h => ?_, ?_⟩, fun values hread hkeys hshown => ?_,
    fun entries => ?_⟩
  · have hread := Percent.fault?_eq_none_of_fill_eq_ok _ h
    have hkeys := Percent.key_eq_none_of_fill_eq_ok _ h
    rw [Percent.substitute, Percent.fill_positional _ hread hkeys] at h
    obtain ⟨texts, htexts, hsettled⟩ := bind_eq_ok.mp h
    obtain ⟨hlength, hout⟩ := Percent.settled_eq_ok.mp hsettled
    exact ⟨hread, hkeys, hlength, texts, htexts, hout⟩
  · rintro ⟨hread, hkeys, hlength, texts, htexts, hout⟩
    rw [Percent.substitute, Percent.fill_positional _ hread hkeys]
    exact bind_eq_ok.mpr ⟨texts, htexts, Percent.settled_eq_ok.mpr ⟨hlength, hout⟩⟩
  · obtain ⟨texts, htexts⟩ := exists_mapM_eq_ok hshown
    have hsettled : Percent.substitute t (.positional values) =
        Percent.settled (Directive.script t) values.length texts := by
      rw [Percent.substitute, Percent.fill_positional _ hread hkeys, htexts]
      rfl
    rw [hsettled, Percent.settled]
    exact ⟨fun hfew => if_pos hfew, fun hmany => by rw [if_neg (Nat.lt_asymm hmany), if_pos hmany]⟩
  · have hother : ∀ e : FormatError, ¬ e.OfDirective → (∀ key, e ≠ .missingKey key) →
        Percent.substitute t (.named entries) ≠ .error (.format e) := by
      intro e hdirective hkey h
      rcases Percent.failsWith_substitute_named t entries _ h with hrefused | ⟨key, hmissing⟩
      · exact hdirective hrefused
      · exact hkey key (MarkupError.format.inj hmissing)
    exact ⟨Percent.fill_named _ entries _, hother _ id (by simp), hother _ id (by simp)⟩

/-- Doubled percent signs stand beside the directives, one of them inside what looks like a
directive.  The list that is too short and the one that is too long differ from the right one by one
value.  In the last template a key is asked for twice and in another order than that of the entries,
and a directive without a key shows all of them. -/
theorem substitute_consumes_exactly_doubled :
    Percent.substitute "%d%%%5s%%s".toList (.positional [.int 7]) =
      .error (.format .notEnoughArguments) ∧
    Percent.substitute "%d%%%5s%%s".toList (.positional [.int 7, .str ['<']]) =
      .ok "7%    &lt;%s".toList ∧
    Percent.substitute "%d%%%5s%%s".toList (.positional [.int 7, .str ['<'], .null]) =
      .error (.format .tooManyArguments) ∧
    Percent.substitute "%(b)s%%%(a)d%(b)s %r".toList
        (.named [(['a'], .int 1), (['b'], .str ['&'])]) =
      .ok "&amp;%1&amp; {&quot;a&quot;: 1, &quot;b&quot;: &quot;&amp;&quot;}".toList := by
  obtain ⟨hexactly, hcount, -⟩ := substitute_consumes_exactly "%d%%%5s%%s".toList
  have hread : (Directive.script "%d%%%5s%%s".toList).fault? = none := by decide +kernel
  have hkeys : ∀ d ∈ (Directive.script "%d%%%5s%%s".toList).directives, d.key = none := by
    decide +kernel
  have hdirectives : (Directive.script "%d%%%5s%%s".toList).directives.length = 2 := by
    decide +kernel
  have hshown : ∀ values : List Value,
      (∀ taken ∈ values.zip (Directive.script "%d%%%5s%%s".toList).directives,
        (Percent.renderDirective taken.1 taken.2).toOption.isSome) →
      ∀ taken ∈ values.zip (Directive.script "%d%%%5s%%s".toList).directives,
        ∃ text, Percent.renderDirective taken.1 taken.2 = .ok text := by
    intro values h taken htaken
    obtain ⟨text, htext⟩ := Option.isSome_iff_exists.mp (h taken htaken)
    exact ⟨text, eq_ok_of_toOption htext⟩
  have hfew := (hcount [.int 7] hread hkeys (hshown _ (by decide +kernel))).1 (by decide +kernel)
  have hmany := (hcount [.int 7, .str ['<'], .null] hread hkeys (hshown _ (by decide +kernel))).2
    (by decide +kernel)
  have hright := (hexactly [.int 7, .str ['<']] "7%    &lt;%s".toList).mpr
    ⟨hread, hkeys, hdirectives, ["7".toList, "    &lt;".toList], by decide +kernel,
      by decide +kernel⟩
  have hnamed := (substitute_consumes_exactly "%(b)s%%%(a)d%(b)s %r".toList).2.2
    [(['a'], .int 1), (['b'], .str ['&'])]
  exact ⟨hfew, hright, hmany, hnamed.1.trans (by decide +kernel)⟩

end EscapeOnce
