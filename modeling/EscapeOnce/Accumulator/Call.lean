import EscapeOnce.Accumulator

/-!
# Calls on an accumulator

A page is put together by calls on one accumulator.  A call answers, possibly with an error, and it
leaves an accumulator behind in either case, so it is a step from one accumulator to the next beside
its answer.

The values of a batch are added one at a time, each behind the last.  When one of them fails, the
fragments of those before it are there already and have to be taken off again, down to the number
that there were when the batch began.
-/

namespace EscapeOnce.Accumulator

/-- Adds the fragment of a value, if it makes one, behind the others. -/
def push (a : Accumulator) (v : Value) : Accumulator × Except MarkupError Unit :=
  match fragment? a.mode v with
  | .ok (some fragment) => ({ a with fragments := a.fragments ++ [fragment] }, .ok ())
  | .ok none => (a, .ok ())
  | .error e => (a, .error e)

/-- Takes off all fragments but the first `mark`. -/
def truncate (a : Accumulator) (mark : Nat) : Accumulator :=
  { a with fragments := a.fragments.take mark }

/-- Adds the fragments of values until one fails, and then goes back to the first `mark`
fragments. -/
def pushEach (mark : Nat) (a : Accumulator) : List Value → Accumulator × Except MarkupError Unit
  | [] => (a, .ok ())
  | v :: rest =>
    match a.push v with
    | (b, .ok ()) => b.pushEach mark rest
    | (b, .error e) => (b.truncate mark, .error e)

/-- Adds the fragments of a batch of values. -/
def pushAll (a : Accumulator) (values : List Value) : Accumulator × Except MarkupError Unit :=
  a.pushEach a.fragments.length values

/-- What can be asked of an accumulator. -/
inductive Call where
  /-- To add one value, or whatever has been made into one. -/
  | append (v : Value)
  /-- To add a batch of values. -/
  | appendAll (values : List Value)
  /-- To give its content. -/
  | finalize

/-- The accumulator behind a call, and the answer: an error, or the content if that was asked
for. -/
def Call.perform (a : Accumulator) : Call → Accumulator × Except MarkupError (Option Rendered)
  | append v => (a.push v).map id (·.map fun _ => none)
  | appendAll values => (a.pushAll values).map id (·.map fun _ => none)
  | finalize => (a, .ok (some a.finalize))

/-- The accumulator behind a sequence of calls, and their answers in order. -/
def run (a : Accumulator) :
    List Call → Accumulator × List (Except MarkupError (Option Rendered))
  | [] => (a, [])
  | call :: calls =>
    let step := call.perform a
    let rest := step.1.run calls
    (rest.1, step.2 :: rest.2)

end EscapeOnce.Accumulator
