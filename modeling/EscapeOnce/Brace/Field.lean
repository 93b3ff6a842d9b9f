import EscapeOnce.Specifier
import EscapeOnce.Template
import EscapeOnce.Value

/-!
# Replacement fields

A field stands between braces and has the form

    argument{.attribute | [key]}[!conversion][:specifier]

`Field.cutBody` finds the brace that closes a field, and `Field.splitBody` finds where the name of
the argument ends inside it.  Both track brackets: a key between brackets may hold any character but
the closing bracket, braces, colons and exclamation marks included.

`Field.script` reads a whole template.  A doubled brace is a literal one.
-/

namespace EscapeOnce

/-- Which form of a value a field or directive asks for. -/
inductive Form where
  /-- The text. -/
  | text
  /-- The diagnostic form. -/
  | representation
  deriving DecidableEq

/-- How a field names its argument. -/
inductive ArgumentName where
  /-- The next one. -/
  | automatic
  | index (n : Nat)
  | name (t : Text)
  deriving DecidableEq

/-- A replacement field. -/
structure Field where
  argument : ArgumentName
  /-- The items to follow from the argument. -/
  accessors : List FieldKey
  conversion : Option Form
  specifier : Specifier
  deriving DecidableEq

namespace Field

/-! ## The extent of a field -/

/-- Where in a field a character stands. -/
inductive Place where
  /-- In the name of the argument or between its accessors. -/
  | name
  /-- In a key between brackets. -/
  | key
  /-- In the conversion or the specifier, where brackets are characters like any other. -/
  | tail
  deriving DecidableEq

/-- Where the next character stands, behind a character of the field. -/
def Place.next : Place → Char → Place
  | name, c => if c = '[' then key else if c = '!' || c = ':' then tail else name
  | key, c => if c = ']' then name else key
  | tail, _ => tail

/-- The body of a field, up to its closing brace, and the text behind that brace. -/
def cutBody (place : Place) : Text → Except FormatError (Text × Text)
  | [] => .error (.unmatchedBrace '{')
  | c :: t =>
    if c = '}' && place ≠ .key then .ok ([], t)
    else if c = '{' && place ≠ .key then .error (.badSpecifier .nestedField)
    else (cutBody (place.next c) t).map fun (body, rest) => (c :: body, rest)

/-- A field and the brace that closes it stand before what is left. -/
theorem append_of_cutBody_eq_ok {place : Place} {t body rest : Text}
    (h : cutBody place t = .ok (body, rest)) : body ++ '}' :: rest = t := by
  induction t generalizing place body with
  | nil => exact absurd h (by simp [cutBody])
  | cons c t ih =>
    rw [cutBody] at h
    by_cases hclosing : (c = '}' && place ≠ .key) = true
    · simp only [if_pos hclosing, Except.ok.injEq, Prod.mk.injEq] at h
      rw [Bool.and_eq_true] at hclosing
      rw [← h.1, ← h.2, of_decide_eq_true hclosing.1, List.nil_append]
    · rw [if_neg hclosing] at h
      split at h
      · exact absurd h (by simp)
      · match hr : cutBody (place.next c) t, h with
        | .ok (b, s), h =>
          simp only [Except.map, Except.ok.injEq, Prod.mk.injEq] at h
          rw [← h.1, List.cons_append, ih (hr.trans (by rw [h.2]))]

/-- What follows a field is shorter than the text that the field was read from. -/
theorem length_lt_of_cutBody_eq_ok {place : Place} {t body rest : Text}
    (h : cutBody place t = .ok (body, rest)) : rest.length < t.length := by
  rw [← append_of_cutBody_eq_ok h, List.length_append, List.length_cons]
  omega

/-! ## The parts of a field -/

/-- Reads a conversion and the specifier text behind it. -/
def readConversion : Text → Except FormatError (Form × Text)
  | [] => .error (.badSpecifier .missingConversion)
  | c :: t => do
    let flag ←
      if c = 's' then .ok .text
      else if c = 'r' then .ok .representation
      else .error (.unsupportedConversion c)
    match t with
    | [] => return (flag, [])
    | ':' :: specifier => return (flag, specifier)
    | _ => .error (.badSpecifier .missingColon)

/-- Splits the body of a field into the name of the argument with its accessors, the conversion
and the text of the specifier, at the first exclamation mark or colon outside brackets. -/
def splitBody (place : Place) : Text → Except FormatError (Text × Option Form × Text)
  | [] => .ok ([], none, [])
  | c :: t =>
    if c = ':' && place ≠ .key then
      .ok ([], none, t)
    else if c = '!' && place ≠ .key then do
      let (flag, specifier) ← readConversion t
      return ([], some flag, specifier)
    else
      (splitBody (place.next c) t).map fun (name, rest) => (c :: name, rest)

/-- The character begins an accessor. -/
def beginsAccessor (c : Char) : Bool := c == '.' || c == '['

/-- Reads the chain of accessors behind the name of an argument. -/
def readAccessors : Text → Except FormatError (List FieldKey)
  | [] => .ok []
  | '.' :: t =>
    let name := t.takeWhile (!beginsAccessor ·)
    if name.isEmpty then .error (.badSpecifier .emptyAttribute)
    else do return .name name :: (← readAccessors (t.dropWhile (!beginsAccessor ·)))
  | '[' :: t =>
    match _found : Text.cutAt? ']' t with
    | none => .error (.badSpecifier .unclosedIndex)
    | some (key, rest) =>
      if key.isEmpty then .error (.badSpecifier .emptyIndex)
      else do return .parse key :: (← readAccessors rest)
  | _ => .error (.badSpecifier .strayAccess)
termination_by t => t.length
decreasing_by
  · have := Text.length_dropWhile_le (!beginsAccessor ·) t
    simp only [List.length_cons]
    omega
  · rw [Text.eq_append_of_cutAt?_eq_some _found]
    simp only [List.length_append, List.length_cons]
    omega

/-- The name that a field gives its argument. -/
def argumentName (t : Text) : ArgumentName :=
  if t.isEmpty then .automatic
  else match FieldKey.parse t with
    | .index n => .index n
    | .name t => .name t

/-- Reads the body of a field. -/
def parse (body : Text) : Except FormatError Field := do
  let (name, conversion, specifier) ← splitBody .name body
  let accessors ← readAccessors (name.dropWhile (!beginsAccessor ·))
  let specifier ← Specifier.parse specifier
  return { argument := argumentName (name.takeWhile (!beginsAccessor ·)), accessors, conversion,
           specifier }

/-! ## Templates -/

/-- Reads a template of fields. -/
def script : Text → Script Field
  | [] => .done
  | '{' :: '{' :: t => .literal '{' (script t)
  | '{' :: t =>
    match _found : cutBody .name t with
    | .error e => .fault e
    | .ok (body, rest) =>
      match parse body with
      | .error e => .fault e
      | .ok field => .directive field (script rest)
  | '}' :: '}' :: t => .literal '}' (script t)
  | '}' :: _ => .fault (.unmatchedBrace '}')
  | c :: t => .literal c (script t)
termination_by t => t.length
decreasing_by
  · simp only [List.length_cons]; omega
  · have := length_lt_of_cutBody_eq_ok _found
    simp only [List.length_cons]
    omega
  · simp only [List.length_cons]; omega
  · simp only [List.length_cons]; omega

end Field

end EscapeOnce
