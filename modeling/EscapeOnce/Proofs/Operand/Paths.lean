import EscapeOnce.Operand.Holding
import EscapeOnce.Proofs.Substitution.Operand

/-!
# Paths through operands

Every access to an item of an operand is, but for who keeps what, the access of `Operand.item`
(`operand_item`, `operand_intoItem`).  A path is one access after the other, so the square for one
key gives the square for a path (`Faithful.operand_followBy`), whichever access is taken.  From
there on operands follow values: a path leads from the operand of a value to the operand of what the
same path reaches from the value, and where the value has no such item, both fail for the same
reason.

They also fail at the same key.  A path of values that fails has a longest beginning that succeeds
(`Value.exists_of_follow_eq_error`), and up to there the operands have followed.
-/

namespace EscapeOnce

open Entity Outcome

/-! ## Paths of values -/

namespace Value

/-- A path that fails has a key at which it fails. -/
theorem exists_of_follow_eq_error {v : Value} {keys : List FieldKey} {e : FormatError}
    (h : v.follow keys = .error e) :
    ∃ before key after w, keys = before ++ key :: after ∧ v.follow before = .ok w ∧
      w.item key = .error e := by
  induction keys generalizing v with
  | nil => cases h
  | cons key keys ih =>
    rw [follow] at h
    cases hitem : v.item key with
    | error f =>
      rw [hitem] at h
      cases h
      exact ⟨[], key, keys, v, rfl, rfl, hitem⟩
    | ok found =>
      rw [hitem] at h
      obtain ⟨before, last, after, w, rfl, hbefore, hlast⟩ := ih h
      refine ⟨key :: before, last, after, w, rfl, ?_, hlast⟩
      rw [follow, hitem]
      exact hbefore

theorem map_content_heldItem (v : Value) (key : FieldKey) :
    (v.heldItem key).map Holding.content = v.item key := by
  rw [heldItem, map_map]
  cases v.item key with
  | error e => rfl
  | ok found => cases v <;> rfl

end Value

/-! ## Held operands -/

namespace HeldOperand

/-- The operand of a held value is the operand of the value. -/
theorem operand_ofHolding (held : Holding Value) :
    (ofHolding held).operand = Operand.ofValue held.content := by
  rcases held with v | v <;> cases v <;> rfl

theorem operand_lend (v : Value) : (lend v).operand = Operand.ofValue v :=
  operand_ofHolding (.lent v)

/-- A quoted operand has the items of its value, whoever owns them in the end. -/
theorem map_operand_heldItem (keep : Holding Value → Holding Value)
    (hkeep : ∀ found, (keep found).content = found.content) (v : Value) (key : FieldKey) :
    ((MarkupError.ofFormat (v.heldItem key)).map fun found => ofHolding (keep found)).map operand =
      (Operand.quoted v).item key := by
  rw [map_map, Operand.item, ← Value.map_content_heldItem, MarkupError.ofFormat_map, map_map]
  refine map_congr fun found _ => ?_
  rw [operand_ofHolding, hkeep]

theorem operand_item (o : HeldOperand) (key : FieldKey) :
    (o.item key).map operand = o.operand.item key := by
  cases o with
  | trusted buffer => rfl
  | number n => rfl
  | quoted v => exact map_operand_heldItem id (fun _ => rfl) v.content key

theorem operand_intoItem (o : HeldOperand) (key : FieldKey) :
    (o.intoItem key).map operand = o.operand.item key := by
  match o with
  | trusted buffer => rfl
  | number n => rfl
  | quoted (.lent v) => exact map_operand_heldItem id (fun _ => rfl) v key
  | quoted (.owned v) =>
    exact map_operand_heldItem (fun found => .owned found.content) (fun _ => rfl) v key

/-- The access reaches what operands reach when nobody asks who keeps what. -/
def Faithful (access : HeldOperand → FieldKey → Except MarkupError HeldOperand) : Prop :=
  ∀ o key, (access o key).map operand = o.operand.item key

section

variable {access : HeldOperand → FieldKey → Except MarkupError HeldOperand} (h : Faithful access)
include h

theorem Faithful.operand_followBy (o : HeldOperand) (keys : List FieldKey) :
    (o.followBy access keys).map operand = o.operand.follow keys := by
  induction keys generalizing o with
  | nil => rfl
  | cons key keys ih =>
    rw [followBy, Operand.follow, ← h, bind_map, map_bind]
    exact bind_congr fun reached _ => ih reached

/-- A path leads from the operand of a value to the operand of what it reaches from the value. -/
theorem Faithful.followBy_lend (v : Value) (keys : List FieldKey) :
    ((lend v).followBy access keys).map operand =
      (MarkupError.ofFormat (v.follow keys)).map Operand.ofValue := by
  rw [h.operand_followBy, operand_lend, Operand.follow_ofValue]

/-- Where a value has no item under a key, neither has its operand. -/
theorem Faithful.access_eq_error {o : HeldOperand} {w : Value} (ho : o.operand = Operand.ofValue w)
    {key : FieldKey} {e : FormatError} (he : w.item key = .error e) :
    access o key = .error (.format e) := by
  have hitem : (access o key).map operand = .error (.format e) := by
    rw [h, ho, Operand.item_ofValue, he]
    rfl
  cases haccess : access o key with
  | ok reached =>
    rw [haccess] at hitem
    cases hitem
  | error other =>
    rw [haccess] at hitem
    cases hitem
    rfl

end

end HeldOperand

/-! ## What is reached -/

/-- An operand shows of a value what may stand in a page: a safe text as it is, a number as that
number, and any other value by its escaped texts. -/
structure Operand.Shows (o : Operand) (v : Value) : Prop where
  safe : ∀ s, v = .safe s → o = .trusted s.buffer ∧ o.toText = .ok s.buffer
  number : ∀ n, v.number? = some n → o = .number n
  other : v.isSafe = false → v.number? = none → o = .quoted v ∧
    o.toText = v.stringify.map escape ∧ o.toRepresentation = v.representation.map escape

theorem Operand.shows_ofValue (v : Value) : (Operand.ofValue v).Shows v where
  safe := by
    rintro s rfl
    exact ⟨rfl, rfl⟩
  number := by
    intro n hn
    cases v <;> cases hn <;> rfl
  other := by
    intro hsafe hnumber
    refine ⟨?_, toText_ofValue hsafe, toRepresentation_ofValue hsafe⟩
    cases v with
    | safe s => cases hsafe
    | int i => cases hnumber
    | float x => cases hnumber
    | _ => rfl

namespace HeldOperand

/-- A path that uses the operands up reaches what a path reaches that leaves them in place, and both
go with the path of the values.  If that one fails, both fail at the same key and for the same
reason; if it reaches a value, they reach an operand that shows this value. -/
theorem followBy_eq_follow (v : Value) (keys : List FieldKey) :
    ((lend v).followBy item keys).map operand =
      (MarkupError.ofFormat (v.follow keys)).map Operand.ofValue ∧
    ((lend v).followBy intoItem keys).map operand = ((lend v).followBy item keys).map operand ∧
    (∀ w, v.follow keys = .ok w →
      ∃ o, (lend v).followBy item keys = .ok o ∧ o.operand.Shows w) ∧
    (∀ e, v.follow keys = .error e →
      ∃ before key after, keys = before ++ key :: after ∧
        (∃ w, v.follow before = .ok w ∧ w.item key = .error e) ∧
        ∀ access ∈ [item, intoItem], ∃ o, (lend v).followBy access before = .ok o ∧
          access o key = .error (.format e)) := by
  have hitem : Faithful item := operand_item
  have hinto : Faithful intoItem := operand_intoItem
  have hreached : ∀ access, Faithful access → ∀ path w, v.follow path = .ok w →
      ∃ o, (lend v).followBy access path = .ok o ∧ o.operand = Operand.ofValue w := by
    intro access haccess path w hw
    have hpath := haccess.followBy_lend v path
    rw [hw] at hpath
    exact map_eq_ok.mp hpath
  refine ⟨hitem.followBy_lend v keys, ?_, fun w hw => ?_, fun e he => ?_⟩
  · rw [hinto.followBy_lend, hitem.followBy_lend]
  · obtain ⟨o, ho, hoperand⟩ := hreached item hitem keys w hw
    exact ⟨o, ho, hoperand ▸ Operand.shows_ofValue w⟩
  · obtain ⟨before, key, after, w, hkeys, hbefore, hkey⟩ := Value.exists_of_follow_eq_error he
    refine ⟨before, key, after, hkeys, ⟨w, hbefore, hkey⟩, ?_⟩
    have hfails : ∀ access, Faithful access → ∃ o, (lend v).followBy access before = .ok o ∧
        access o key = .error (.format e) := by
      intro access haccess
      obtain ⟨o, ho, hoperand⟩ := hreached access haccess before w hbefore
      exact ⟨o, ho, haccess.access_eq_error hoperand hkey⟩
    intro access haccess
    rcases List.mem_pair.mp haccess with rfl | rfl
    · exact hfails item hitem
    · exact hfails intoItem hinto

/-- A list that an object makes is owned.  A safe text in it is taken out of it and is still
trusted, and a path past its end fails there. -/
theorem followBy_eq_follow_owned :
    let made := Value.list [.safe (.trusted "<b>".toList)]
    let page := Value.object
      { identity := 0, typeName := "page".toList, ownText := none,
        representation := .ok [], field := fun _ => some made }
    page.follow [.name ['k'], .index 0] = .ok (.safe (.trusted "<b>".toList)) ∧
      ((lend page).followBy intoItem [.name ['k'], .index 0]).map operand =
        .ok (.trusted "<b>".toList) ∧
      page.follow [.name ['k'], .index 1, .index 0] = .error (.indexOutOfRange 1) ∧
      ((lend page).followBy intoItem [.name ['k'], .index 1, .index 0]).map operand =
        .error (.format (.indexOutOfRange 1)) := by
  intro made page
  obtain ⟨hfound, hboth, -⟩ := followBy_eq_follow page [.name ['k'], .index 0]
  obtain ⟨hmissing, hbothMissing, -⟩ := followBy_eq_follow page [.name ['k'], .index 1, .index 0]
  exact ⟨rfl, hboth.trans hfound, rfl, hbothMissing.trans hmissing⟩

end HeldOperand

end EscapeOnce
