import EscapeOnce.Accumulator.Call
import EscapeOnce.Proofs.Outcome

/-!
# What an accumulator holds

Each value adds one text to a page: its safe form in html mode, its own text in plain mode; a null
adds none.  An accumulator takes in the texts of a batch or, if one of the values has none, takes
off again what it took in and is what it was (`pushAll_eq_landed`).  Nothing else happens in a call,
so after any sequence of calls the fragments are the texts of the values of the calls that
succeeded, in order (`run_holds_taken`), whatever failed, was null or was finalized in between.

The values that a sequence of calls added are read off the calls and their answers alone: `taken`.
-/

namespace EscapeOnce

open Outcome

namespace OutputMode

/-- The text that a value adds to a page: in html mode the buffer of safe text as it is and the text
of anything else escaped, in plain mode the text as it is. -/
def textOf : OutputMode → Value → Except MarkupError Text
  | .html, .safe s => .ok s.buffer
  | .html, v => v.stringify.map Entity.escape
  | .plain, v => v.stringify

/-- The texts that values add to a page.  A null adds none. -/
def textsOf (mode : OutputMode) (values : List Value) : Except MarkupError (List Text) :=
  (values.filter fun v => !v.isNull).mapM mode.textOf

theorem textsOf_nil (mode : OutputMode) : mode.textsOf [] = .ok [] := rfl

theorem textOf_null (mode : OutputMode) : mode.textOf .null = .ok [] := by
  cases mode <;> rfl

theorem textsOf_cons (mode : OutputMode) (v : Value) (values : List Value) :
    mode.textsOf (v :: values) =
      mode.textOf v >>= fun t =>
        (mode.textsOf values).map ((if v.isNull then [] else [t]) ++ ·) := by
  cases hnull : v.isNull with
  | true =>
    have hv : v = .null := by cases v <;> first | rfl | cases hnull
    subst hv
    rw [textOf_null]
    show mode.textsOf values = (mode.textsOf values).map ([] ++ ·)
    cases mode.textsOf values <;> rfl
  | false =>
    rw [textsOf, List.filter_cons_of_pos (by simp [hnull]), List.mapM_cons]
    refine bind_congr fun t _ => ?_
    show (mode.textsOf values >>= _) = _
    cases mode.textsOf values <;> rfl

/-- The texts of two batches are those of both, one after the other. -/
theorem textsOf_append {mode : OutputMode} {first second : List Value} {a b : List Text}
    (ha : mode.textsOf first = .ok a) (hb : mode.textsOf second = .ok b) :
    mode.textsOf (first ++ second) = .ok (a ++ b) := by
  have ha' : (first.filter fun v => !v.isNull).mapM mode.textOf = .ok a := ha
  have hb' : (second.filter fun v => !v.isNull).mapM mode.textOf = .ok b := hb
  rw [textsOf, List.filter_append, List.mapM_append, ha', hb']
  rfl

/-- A batch fails as its first failing value does. -/
theorem textsOf_eq_error_iff {mode : OutputMode} {values : List Value} {e : MarkupError} :
    mode.textsOf values = .error e ↔
      ∃ before v after, values = before ++ v :: after ∧
        (∀ u ∈ before, ∃ t, mode.textOf u = .ok t) ∧ mode.textOf v = .error e :=
  eq_error_iff_of_cons mode.textOf mode.textsOf ⟨[], mode.textsOf_nil⟩ mode.textsOf_cons

end OutputMode

namespace Accumulator

/-! ## One call -/

/-- An accumulator with texts added behind its fragments. -/
def holding (a : Accumulator) (texts : List Text) : Accumulator :=
  { a with fragments := a.fragments ++ texts }

theorem holding_nil (a : Accumulator) : a.holding [] = a :=
  congrArg (Accumulator.mk a.mode) (List.append_nil _)

theorem holding_holding (a : Accumulator) (first second : List Text) :
    (a.holding first).holding second = a.holding (first ++ second) :=
  congrArg (Accumulator.mk a.mode) (List.append_assoc ..)

/-- The state and the answer of a call that leaves the accumulator as it was if it fails. -/
def landed (a : Accumulator) :
    Except MarkupError Accumulator → Accumulator × Except MarkupError Unit
  | .ok b => (b, .ok ())
  | .error e => (a, .error e)

theorem fragment?_eq (mode : OutputMode) (v : Value) :
    fragment? mode v = (mode.textOf v).map fun t => if v.isNull then none else some t := by
  cases mode with
  | html =>
    cases v with
    | null => rfl
    | safe s => rfl
    | _ =>
      rw [fragment?, OutputMode.textOf, map_map]
      · rfl
      all_goals simp
  | plain =>
    cases v with
    | null => rfl
    | _ =>
      rw [fragment?, OutputMode.textOf]
      · rfl
      all_goals simp

/-- Appending a value adds its text. -/
theorem append_eq (a : Accumulator) (v : Value) :
    a.append v = (a.mode.textOf v).map fun t => a.holding (if v.isNull then [] else [t]) := by
  rw [append, fragment?_eq, bind_map]
  cases v.isNull <;> cases a.mode.textOf v <;> rfl

/-- Appending values one after the other adds the texts of all. -/
theorem appendAll_eq (a : Accumulator) (values : List Value) :
    a.appendAll values = (a.mode.textsOf values).map a.holding := by
  induction values generalizing a with
  | nil => exact congrArg Except.ok a.holding_nil.symm
  | cons v values ih =>
    rw [appendAll, append_eq, bind_map, a.mode.textsOf_cons, map_bind]
    refine bind_congr fun t _ => ?_
    rw [ih, map_map]
    exact map_congr fun texts _ => a.holding_holding _ texts

/-- A single value is appended as it is appended in a batch of its own. -/
theorem appendAll_singleton (a : Accumulator) (v : Value) : a.appendAll [v] = a.append v := by
  rw [appendAll]
  cases a.append v <;> rfl

/-- Adding a value in place appends it. -/
theorem push_eq_landed (a : Accumulator) (v : Value) : a.push v = a.landed (a.append v) := by
  rw [push, append]
  match fragment? a.mode v with
  | .ok (some fragment) => rfl
  | .ok none => exact congrArg (·, Except.ok ()) a.holding_nil.symm
  | .error e => rfl

/-- What is added behind the first `mark` fragments comes off again. -/
theorem truncate_holding {a : Accumulator} {mark : Nat} (h : mark ≤ a.fragments.length)
    (texts : List Text) : (a.holding texts).truncate mark = a.truncate mark :=
  congrArg (Accumulator.mk a.mode) (List.take_append_of_le_length h)

/-- Adding values in place appends all of them, or leaves no more than the first `mark`
fragments. -/
theorem pushEach_eq_landed {mark : Nat} {a : Accumulator} (h : mark ≤ a.fragments.length)
    (values : List Value) :
    a.pushEach mark values = (a.truncate mark).landed (a.appendAll values) := by
  induction values generalizing a with
  | nil => rfl
  | cons v values ih =>
    rw [pushEach, push_eq_landed, appendAll, append_eq]
    cases a.mode.textOf v with
    | error e => rfl
    | ok t =>
      have hmark : mark ≤ (a.holding (if v.isNull then [] else [t])).fragments.length :=
        Nat.le_trans h (List.length_append ▸ Nat.le_add_right ..)
      exact (ih hmark).trans (congrArg (landed · _) (truncate_holding h _))

/-- Adding a batch in place appends all of it, or leaves the accumulator as it was. -/
theorem pushAll_eq_landed (a : Accumulator) (values : List Value) :
    a.pushAll values = a.landed (a.appendAll values) := by
  have hall : a.truncate a.fragments.length = a :=
    congrArg (Accumulator.mk a.mode) List.take_length
  rw [pushAll, pushEach_eq_landed (Nat.le_refl _), hall]

/-- The values that a call is to add. -/
def Call.values : Call → List Value
  | append v => [v]
  | appendAll values => values
  | finalize => []

/-- What a call that succeeds answers: the content, if that was asked for. -/
def Call.answer (a : Accumulator) : Call → Option Rendered
  | append _ => none
  | appendAll _ => none
  | finalize => some a.finalize

/-- A call adds the texts of its values, or fails as they do and leaves the accumulator as it
was. -/
theorem Call.perform_eq (a : Accumulator) (call : Call) :
    call.perform a =
      match a.mode.textsOf call.values with
      | .ok texts => (a.holding texts, .ok (call.answer a))
      | .error e => (a, .error e) := by
  cases call with
  | append v =>
    rw [perform, push_eq_landed, ← appendAll_singleton, appendAll_eq]
    cases h : a.mode.textsOf [v] <;> rw [values, h] <;> rfl
  | appendAll batch =>
    rw [perform, pushAll_eq_landed, appendAll_eq]
    cases h : a.mode.textsOf batch <;> rw [values, h] <;> rfl
  | finalize => exact congrArg (·, Except.ok (some a.finalize)) a.holding_nil.symm

/-- A call fails exactly as its values do. -/
theorem Call.answer_eq_error_iff {a : Accumulator} {call : Call} {e : MarkupError} :
    (call.perform a).2 = .error e ↔ a.mode.textsOf call.values = .error e := by
  rw [perform_eq]
  cases a.mode.textsOf call.values with
  | ok texts => constructor <;> intro h <;> cases h
  | error f => constructor <;> intro h <;> cases h <;> rfl

/-- A call that fails changes nothing. -/
theorem Call.state_of_answer_eq_error {a : Accumulator} {call : Call} {e : MarkupError}
    (h : (call.perform a).2 = .error e) : (call.perform a).1 = a := by
  rw [perform_eq, answer_eq_error_iff.mp h]

/-! ## Sequences of calls -/

/-- The values of the calls that were answered without an error, in order. -/
def taken : List Call → List (Except MarkupError (Option Rendered)) → List Value
  | call :: calls, .ok _ :: answers => call.values ++ taken calls answers
  | _ :: calls, .error _ :: answers => taken calls answers
  | _, _ => []

theorem length_answers (a : Accumulator) (calls : List Call) :
    (a.run calls).2.length = calls.length := by
  induction calls generalizing a with
  | nil => rfl
  | cons call calls ih => exact congrArg Nat.succ (ih _)

/-- One more call goes on from what the others have left. -/
theorem run_append_singleton (a : Accumulator) (calls : List Call) (call : Call) :
    a.run (calls ++ [call]) =
      ((call.perform (a.run calls).1).1,
        (a.run calls).2 ++ [(call.perform (a.run calls).1).2]) := by
  induction calls generalizing a with
  | nil => rfl
  | cons first calls ih =>
    rw [List.cons_append, run, ih]
    rfl

/-- A sequence of calls adds the texts of the values that were taken. -/
theorem run_eq_holding (a : Accumulator) (calls : List Call) :
    ∃ texts, a.mode.textsOf (taken calls (a.run calls).2) = .ok texts ∧
      (a.run calls).1 = a.holding texts := by
  induction calls generalizing a with
  | nil => exact ⟨[], rfl, a.holding_nil.symm⟩
  | cons call calls ih =>
    rw [run, Call.perform_eq]
    match htexts : a.mode.textsOf call.values with
    | .ok texts =>
      obtain ⟨others, hothers, hrun⟩ := ih (a.holding texts)
      exact ⟨texts ++ others, OutputMode.textsOf_append htexts hothers,
        hrun.trans (a.holding_holding texts others)⟩
    | .error e => exact ih a

/-- After any sequence of calls the fragments are the texts of the values of the calls that
succeeded, a null apart, in order.  Their number is the length, and their concatenation is the text
and, tagged by the mode, the content.  What a further call does depends on nothing else: asking for
the content changes nothing, and adding values fails exactly as the first failing one of them does,
and then changes nothing either. -/
theorem run_holds_taken (mode : OutputMode) (calls : List Call) :
    let a := ((empty mode).run calls).1
    let answers := ((empty mode).run calls).2
    let values := (taken calls answers).filter fun v => !v.isNull
    answers.length = calls.length ∧
    a.mode = mode ∧
    values.mapM mode.textOf = .ok a.fragments ∧
    a.fragments.length = values.length ∧
    a.toText = a.fragments.flatten ∧
    a.finalize = (match mode with
      | .html => .html (.trusted a.fragments.flatten)
      | .plain => .plain a.fragments.flatten) ∧
    Call.finalize.perform a = (a, .ok (some a.finalize)) ∧
    (∀ call : Call, (empty mode).run (calls ++ [call]) =
      ((call.perform a).1, answers ++ [(call.perform a).2])) ∧
    (∀ (call : Call) (e : MarkupError), (call.perform a).2 = .error e ↔
      ∃ before v after, call.values = before ++ v :: after ∧
        (∀ u ∈ before, ∃ t, mode.textOf u = .ok t) ∧ mode.textOf v = .error e) ∧
    (∀ (call : Call) (e : MarkupError), (call.perform a).2 = .error e →
      (call.perform a).1 = a) := by
  intro a answers values
  obtain ⟨texts, htexts, hrun⟩ := run_eq_holding (empty mode) calls
  have ha : a = ⟨mode, texts⟩ := hrun
  have hvalues : values.mapM mode.textOf = .ok texts := htexts
  have herror : ∀ (call : Call) (e : MarkupError), (call.perform a).2 = .error e ↔
      mode.textsOf call.values = .error e := by
    intro call e
    rw [Call.answer_eq_error_iff, ha]
  refine ⟨length_answers _ calls, ?_, ?_, ?_, rfl, ?_, rfl, run_append_singleton _ calls,
    fun call e => (herror call e).trans OutputMode.textsOf_eq_error_iff,
    fun call e => Call.state_of_answer_eq_error⟩
  · rw [ha]
  · rw [ha, hvalues]
  · rw [ha, length_of_mapM_eq_ok hvalues]
  · rw [ha]
    cases mode <;> rfl

/-- A batch with binary data in its middle, behind a text that is there already: its first value is
taken off again, and it fails in the same way when it is tried again. -/
theorem run_holds_taken_failed_batch :
    let batch := [.str ['a'], .bytes [1], .str ['b']]
    let a := ((empty .html).run [.append (.str ['<']), .appendAll batch, .finalize]).1
    a.fragments = ["&lt;".toList] ∧ (Call.perform a (.appendAll batch)).1 = a :=
  ⟨rfl, (run_holds_taken .html _).2.2.2.2.2.2.2.2.2 _ (.inputType .text "bytes".toList) rfl⟩

end Accumulator

end EscapeOnce
