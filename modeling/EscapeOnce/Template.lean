import EscapeOnce.Error

/-!
# Templates

Both placeholder styles read a template into the same shape: literal characters and directives in
order, up to the end of the template or to the first place where it cannot be read.  A fault stands
where it was met, because what comes before it is filled in first, and may fail first.

Reading does not depend on the arguments, so everything that is said about a template alone is said
about its `Script`.
-/

namespace EscapeOnce

/-- A template that has been read, with directives of type `δ`. -/
inductive Script (δ : Type) where
  /-- The end of the template. -/
  | done
  /-- The template cannot be read from here on. -/
  | fault (error : FormatError)
  /-- A character that stands for itself. -/
  | literal (c : Char) (rest : Script δ)
  /-- A directive to fill in. -/
  | directive (d : δ) (rest : Script δ)
  deriving DecidableEq

namespace Script

variable {δ : Type}

/-- The directives of a template in order. -/
def directives : Script δ → List δ
  | done => []
  | fault _ => []
  | literal _ rest => rest.directives
  | directive d rest => d :: rest.directives

/-- The fault of a template, if it has one. -/
def fault? : Script δ → Option FormatError
  | done => none
  | fault error => some error
  | literal _ rest => rest.fault?
  | directive _ rest => rest.fault?

end Script

end EscapeOnce
