import EscapeOnce.Proofs.Substitution.Robust
import EscapeOnce.Proofs.Text.Casing
import EscapeOnce.Proofs.Text.Replace
import EscapeOnce.SafeText.Operations

/-!
# Runs of operations on safe texts

A safe text is worth its name only as long as its buffer is fit for a page.  Nothing in its type
says so, and a text can be declared trusted whatever it is.  What holds is that no operation is to
blame: a run of operations keeps its buffers clean if the safe texts that it takes in are clean, and
it keeps them well-escaped if those are well-escaped (`Reachable.clean_and_wellEscaped`).

Of raw operands nothing is asked, and of safe ones only those count that are really taken in.  For a
template these are the ones that its fields reach, in the order in which it is filled in.

Replacing and upper case stand apart.  The pattern of a replacement may cut an entity in two, and
upper case makes `&AMP;` of one, so these two only keep a buffer clean.
-/

namespace EscapeOnce.SafeText

open Entity Outcome

/-- An operation on a safe text, with its operands. -/
inductive Operation where
  | concat (other : Value)
  | rconcat (other : Value)
  /-- The addition of another safe text at the end. -/
  | append (other : SafeText)
  /-- The addition of the safe text at the end of another. -/
  | prepend (other : SafeText)
  | appendRaw (t : Text)
  | prependRaw (t : Text)
  | times (n : Nat)
  | join (parts : List Value)
  /-- The safe text put together with others before and behind it. -/
  | collect (before after : List SafeText)
  | replace (old new : Value) (limit : Option Nat)
  | lower
  | upper
  | capitalize
  /-- The safe text as a template of fields. -/
  | format (args : List Value) (named : Dict Value)
  /-- The safe text as a template of directives. -/
  | interpolate (args : Arguments)

namespace Operation

/-- The safe text that an operation produces, unless it fails. -/
def result (s : SafeText) : Operation → Option SafeText
  | concat other => (s.concat other).toOption
  | rconcat other => (s.rconcat other).toOption
  | append other => some (s ++ other)
  | prepend other => some (other ++ s)
  | appendRaw t => some (s.appendRaw t)
  | prependRaw t => some (SafeText.prependRaw t s)
  | times n => s.repeat? n
  | join parts => (s.join parts).toOption
  | collect before after => some (SafeText.collect (before ++ s :: after))
  | replace old new limit => (s.replace old new limit).toOption
  | lower => some s.lower
  | upper => some s.upper
  | capitalize => some s.capitalize
  | format args named => (s.format args named).toOption
  | interpolate args => (s.interpolate args).toOption

/-- The operation on the safe text `s` takes in the safe text `u`: as an operand, or by a field of
the template that `s` is. -/
def Takes (s u : SafeText) : Operation → Prop
  | concat other => other = .safe u
  | rconcat other => other = .safe u
  | append other => other = u
  | prepend other => other = u
  | join parts => .safe u ∈ parts
  | collect before after => u ∈ before ∨ u ∈ after
  | replace old new _ => old = .safe u ∨ new = .safe u
  | format args named =>
    Brace.LooksUp Brace.renderField args named .unset (Field.script s.buffer) (.safe u)
  | interpolate args =>
    Percent.LooksUp Percent.renderDirective args (Directive.script s.buffer) (.safe u)
  | appendRaw _ | prependRaw _ | times _ | lower | upper | capitalize => False

/-- The operation leaves every entity whole. -/
def keepsEntities : Operation → Bool
  | replace .. | upper => false
  | _ => true

end Operation

/-! ## One operation -/

section

variable {P : Text → Prop} (hP : Robust P)
include hP

/-- An operand joins safe text as an escaped text or as a safe buffer. -/
theorem robust_operandText? {v : Value} {t : Text} (hv : ∀ u, v = .safe u → P u.buffer)
    (h : v.operandText? = some t) : P t := by
  cases v <;> cases h
  · exact hP.escape _
  · exact hv _ rfl

theorem robust_operandText {v : Value} {expected : Expectation} {t : Text}
    (hv : ∀ u, v = .safe u → P u.buffer) (h : v.operandText expected = .ok t) : P t := by
  rw [Value.operandText] at h
  cases hoperand : v.operandText? with
  | some t =>
    rw [hoperand] at h
    cases h
    exact robust_operandText? hP hv hoperand
  | none =>
    rw [hoperand] at h
    cases h

theorem robust_joined {parts : List Value} {texts : List Text}
    (hparts : ∀ u, Value.safe u ∈ parts → P u.buffer)
    (h : parts.mapM (·.operandText .joinElement) = .ok texts) : ∀ t ∈ texts, P t := by
  intro t ht
  obtain ⟨v, hv, htext⟩ := exists_eq_ok_of_mem_results h ht
  exact robust_operandText hP (fun u hu => hparts u (hu ▸ hv)) htext

theorem robust_times {s : SafeText} (h : P s.buffer) (n : Nat) : P (s.times n).buffer := by
  rw [times]
  split
  · exact hP.nil
  · exact hP.flatten fun t ht => List.eq_of_mem_replicate ht ▸ h

/-- An operation that leaves entities whole keeps each robust property that the safe texts it takes
in have. -/
theorem Operation.robust_result {op : Operation} {s s' : SafeText} (hop : op.keepsEntities)
    (hs : P s.buffer) (htaken : ∀ u, op.Takes s u → P u.buffer) (h : op.result s = some s') :
    P s'.buffer := by
  cases op with
  | concat other =>
    have h := eq_ok_of_toOption h
    rw [SafeText.concat] at h
    cases hoperand : other.operandText? with
    | some t =>
      rw [hoperand] at h
      cases h
      exact hP.append hs (robust_operandText? hP htaken hoperand)
    | none =>
      rw [hoperand] at h
      cases h
  | rconcat other =>
    have h := eq_ok_of_toOption h
    rw [SafeText.rconcat] at h
    cases hoperand : other.operandText? with
    | some t =>
      rw [hoperand] at h
      cases h
      exact hP.append (robust_operandText? hP htaken hoperand) hs
    | none =>
      rw [hoperand] at h
      cases h
  | append other =>
    cases h
    exact hP.append hs (htaken other rfl)
  | prepend other =>
    cases h
    exact hP.append (htaken other rfl) hs
  | appendRaw t =>
    cases h
    exact hP.append hs (hP.escape t)
  | prependRaw t =>
    cases h
    exact hP.append (hP.escape t) hs
  | times n =>
    rw [result, repeat?] at h
    split at h
    · cases h
      exact robust_times hP hs n
    · cases h
  | join parts =>
    obtain ⟨texts, htexts, h⟩ := bind_eq_ok.mp (eq_ok_of_toOption h)
    cases h
    exact hP.intercalate hs (robust_joined hP htaken htexts)
  | collect before after =>
    cases h
    refine hP.flatten fun t ht => ?_
    obtain ⟨u, hu, rfl⟩ := List.mem_map.mp ht
    rcases List.mem_append.mp hu with hu | hu
    · exact htaken u (Or.inl hu)
    · rcases List.mem_cons.mp hu with rfl | hu
      · exact hs
      · exact htaken u (Or.inr hu)
  | replace old new limit => cases hop
  | lower =>
    cases h
    exact hP.lower hs
  | upper => cases hop
  | capitalize =>
    cases h
    exact hP.capitalize hs
  | format args named =>
    obtain ⟨t, ht, rfl⟩ := map_eq_ok.mp (eq_ok_of_toOption h)
    exact Brace.robust_substitute hP hs htaken ht
  | interpolate args =>
    obtain ⟨t, ht, rfl⟩ := map_eq_ok.mp (eq_ok_of_toOption h)
    exact Percent.robust_substitute hP hs htaken ht

end

/-- Every operation keeps a buffer clean if the safe texts that it takes in are clean. -/
theorem Operation.clean_result {op : Operation} {s s' : SafeText} (hs : Clean s.buffer)
    (htaken : ∀ u, op.Takes s u → Clean u.buffer) (h : op.result s = some s') :
    Clean s'.buffer := by
  match hop : op.keepsEntities with
  | true => exact op.robust_result robust_clean hop hs htaken h
  | false =>
    cases op <;> cases hop
    case replace old new limit =>
      obtain ⟨pattern, -, h⟩ := bind_eq_ok.mp (eq_ok_of_toOption h)
      obtain ⟨replacement, hreplacement, h⟩ := bind_eq_ok.mp h
      cases h
      have hnew := robust_operandText robust_clean (fun u hu => htaken u (Or.inr hu)) hreplacement
      exact (clean_append.mpr ⟨hnew, hs⟩).subset (Text.replace_subset pattern replacement limit _)
    case upper =>
      cases h
      exact hs.upper

/-! ## Runs -/

/-- A run of `allowed` operations that takes in only `accepted` safe texts can come to this one.  It
starts from nothing, from raw text, from a raw value, or from a safe text that is accepted. -/
inductive Reachable (allowed : Operation → Prop) (accepted : SafeText → Prop) : SafeText → Prop
  | empty : Reachable allowed accepted .empty
  | escape (t : Text) : Reachable allowed accepted (.escape t)
  | ofRaw {v : Value} {s : SafeText} (raw : v.isSafe = false) (made : v.toSafe = .ok s) :
      Reachable allowed accepted s
  | taken {u : SafeText} (h : accepted u) : Reachable allowed accepted u
  | step {s s' : SafeText} (op : Operation) (reached : Reachable allowed accepted s)
      (hallowed : allowed op) (htaken : ∀ u, op.Takes s u → accepted u)
      (done : op.result s = some s') : Reachable allowed accepted s'

/-- A run keeps a property of buffers that escaped forms have and that each of its operations
keeps. -/
theorem Reachable.invariant {allowed : Operation → Prop} {P : Text → Prop}
    (hescape : ∀ t, P (Entity.escape t))
    (hstep : ∀ op s s', allowed op → P s.buffer → (∀ u, op.Takes s u → P u.buffer) →
      op.result s = some s' → P s'.buffer)
    {s : SafeText} (h : Reachable allowed (fun u => P u.buffer) s) : P s.buffer := by
  induction h with
  | empty => exact hescape []
  | escape t => exact hescape t
  | @ofRaw v s raw made =>
    have hmade : v.toSafe = v.stringify.map SafeText.escape := by
      cases v <;> first | rfl | cases raw
    obtain ⟨t, -, rfl⟩ := map_eq_ok.mp (hmade.symm.trans made)
    exact hescape t
  | taken h => exact h
  | step op _ hallowed htaken done ih => exact hstep op _ _ hallowed ih htaken done

/-- A run that takes in clean safe texts produces clean ones.  A run that takes in well-escaped safe
texts, and neither replaces nor writes in upper case, produces well-escaped ones. -/
theorem Reachable.clean_and_wellEscaped (s : SafeText) :
    (Reachable (fun _ => True) (fun u => Clean u.buffer) s → Clean s.buffer) ∧
    (Reachable (fun op => op.keepsEntities) (fun u => WellEscaped u.buffer) s →
      WellEscaped s.buffer) := by
  constructor
  · refine Reachable.invariant clean_escape fun op s s' _ hs htaken h => ?_
    exact op.clean_result hs htaken h
  · refine Reachable.invariant wellEscaped_escape fun op s s' hop hs htaken h => ?_
    exact op.robust_result robust_wellEscaped hop hs htaken h

/-- The directive `%r`. -/
def shownDirective : Directive where
  key := none
  left := false
  sign := none
  zero := false
  alternate := false
  width := 0
  precision := none
  conversion := 'r'

/-- Upper case leaves `&LT;`, which is clean and no entity any more; a safe quote shown in its
diagnostic form between entities leaves a well-escaped text. -/
theorem Reachable.clean_and_wellEscaped_quoted :
    Clean "&LT;A".toList ∧ WellEscaped "&lt;&quot;&quot;&quot;&gt;".toList := by
  constructor
  · refine (Reachable.clean_and_wellEscaped (.trusted "&LT;A".toList)).1 ?_
    exact .step .upper (.escape "<a".toList) trivial (fun _ h => absurd h id) rfl
  · refine (Reachable.clean_and_wellEscaped (.trusted "&lt;&quot;&quot;&quot;&gt;".toList)).2 ?_
    have hscript : Directive.script (SafeText.escape "<%r>".toList).buffer =
        (Script.directive shownDirective (Script.done.behind "&gt;".toList)).behind
          "&lt;".toList := by
      have hparse : Directive.parse "r&gt;".toList = .ok (shownDirective, "&gt;".toList) := rfl
      have hlast : Directive.script "&gt;".toList = Script.done.behind "&gt;".toList := by
        rw [← Directive.script, ← Directive.script_append (by decide), List.append_nil]
      rw [← hlast, ← Directive.script_of_parse_eq_ok (by decide) hparse,
        ← Directive.script_append (by decide)]
      rfl
    have hshown : Specifier.layoutText { Specifier.plain with align := some .right }
        (Operand.trustedRepresentation "&quot;".toList) "SafeText".toList =
          .ok "&quot;&quot;&quot;".toList := by
      have hquoted : Operand.trustedRepresentation "&quot;".toList =
          Entity.escape "\"\"\"".toList := by decide +kernel
      rw [hquoted, Specifier.layoutText, Visible.tokens_escape]
      rfl
    refine .step (.interpolate (.positional [.safe (.escape ['"'])])) (.escape "<%r>".toList) rfl
      ?_ ?_
    · intro u hu
      rw [Operation.Takes, hscript] at hu
      iterate 4 obtain ⟨⟩ | hu | ⟨⟩ := hu
      cases hu with
      | here found =>
        cases found
        exact wellEscaped_escape _
      | behindDirective found _ later =>
        cases found
        iterate 4 obtain ⟨⟩ | later | ⟨⟩ := later
        cases later
    · rw [Operation.result, SafeText.interpolate, Percent.substitute, hscript]
      exact congrArg (fun first => ((MarkupError.ofFormat first >>= fun t =>
        .ok ("&lt;".toList ++ (t ++ "&gt;".toList))).map trusted).toOption) hshown

end EscapeOnce.SafeText
