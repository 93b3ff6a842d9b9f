import EscapeOnce.Operand

/-!
# Who keeps what an operand stands for

An argument belongs to the caller and is only lent to the operand that is made of it.  An item of a
list or of a dictionary is a part of it, and so is lent as well.  An item of an object is different:
the object makes it when it is asked, and whoever asked owns it.

There are two ways to an item.  `HeldOperand.item` leaves the operand in place, so the parts of what
it holds can be lent.  `HeldOperand.intoItem` uses the operand up.  What it was lent lives on with
the caller, but a part of what it owned would be lost with it, and has to be taken out as a value of
its own.

Nothing that an operand shows depends on who keeps it: `HeldOperand.operand` is the `Operand` that
remains when that is forgotten.
-/

namespace EscapeOnce

/-- Something lent by the one who keeps it, or owned by its holder. -/
inductive Holding (α : Type) where
  | lent (a : α)
  | owned (a : α)

/-- What is held. -/
def Holding.content {α : Type} : Holding α → α
  | lent a => a
  | owned a => a

/-- The item of a value under a key.  Parts of the value are lent; an object makes its items. -/
def Value.heldItem (v : Value) (key : FieldKey) : Except FormatError (Holding Value) :=
  (v.item key).map fun found =>
    match v with
    | .object _ => .owned found
    | _ => .lent found

/-- An argument as a template sees it, with who keeps it. -/
inductive HeldOperand where
  /-- The buffer of a safe text. -/
  | trusted (buffer : Holding Text)
  /-- A number, which is copied. -/
  | number (n : Number)
  /-- Any other value. -/
  | quoted (v : Holding Value)

namespace HeldOperand

/-- The operand that a held value becomes. -/
def ofHolding (held : Holding Value) : HeldOperand :=
  match held.content with
  | .int i => number (.int i)
  | .float x => number (.float x)
  | _ =>
    match held with
    | .lent (.safe s) => trusted (.lent s.buffer)
    | .owned (.safe s) => trusted (.owned s.buffer)
    | held => quoted held

/-- The operand that is made of a value of the caller. -/
def lend (v : Value) : HeldOperand := ofHolding (.lent v)

/-- The operand, no matter who keeps what it stands for. -/
def operand : HeldOperand → Operand
  | trusted buffer => .trusted buffer.content
  | number n => .number n
  | quoted v => .quoted v.content

/-- The item of an operand under a key, the operand staying in place. -/
def item (o : HeldOperand) (key : FieldKey) : Except MarkupError HeldOperand :=
  match o with
  | quoted v => (MarkupError.ofFormat (v.content.heldItem key)).map ofHolding
  | _ => .error (.format (.noField o.operand.typeName key.toText))

/-- The item of an operand under a key, the operand being used up. -/
def intoItem (o : HeldOperand) (key : FieldKey) : Except MarkupError HeldOperand :=
  match o with
  | quoted (.lent v) => (MarkupError.ofFormat (v.heldItem key)).map ofHolding
  | quoted (.owned v) =>
    (MarkupError.ofFormat (v.heldItem key)).map fun found => ofHolding (.owned found.content)
  | _ => .error (.format (.noField o.operand.typeName key.toText))

/-- The operand reached by following keys one after the other, each by the given access. -/
def followBy (access : HeldOperand → FieldKey → Except MarkupError HeldOperand) (o : HeldOperand) :
    List FieldKey → Except MarkupError HeldOperand
  | [] => .ok o
  | key :: keys => do (← access o key).followBy access keys

end HeldOperand

end EscapeOnce
