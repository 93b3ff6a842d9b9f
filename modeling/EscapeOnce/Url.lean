import EscapeOnce.Value.Conversion

/-!
# Texts inside a URL

A text is quoted for a URL by writing every byte of its UTF-8 form as a percent sign and two
upper-case hexadecimal digits, except for letters, digits and the five characters `_ . - ~ /`.

A query is a list of parameters in the order of their keys; parameters with equal keys keep their
order.  Its separators are part of raw text, so in a page `&` becomes `&amp;`.
-/

namespace EscapeOnce.Url

/-- The byte is left as it is in a URL. -/
def isUnreserved (b : UInt8) : Bool :=
  let c := Char.ofNat b.toNat
  c.isAlphanum || c == '_' || c == '.' || c == '-' || c == '~' || c == '/'

/-- The upper-case hexadecimal digit of a number below sixteen. -/
def hexDigit (n : Nat) : Char := (Nat.digitChar n).toUpper

/-- One byte as it stands in a URL. -/
def quoteByte (b : UInt8) : Text :=
  if isUnreserved b then [Char.ofNat b.toNat]
  else ['%', hexDigit (b.toNat / 16), hexDigit (b.toNat % 16)]

/-- A text as it stands in a URL. -/
def quoteText (t : Text) : Text := t.utf8.flatMap quoteByte

/-- The text of a value as it stands in a URL.  A null has a fallback, which is taken as it is, or
fails. -/
def quote (v : Value) (fallback : Option Text) : Except MarkupError Text :=
  match v, fallback with
  | .null, some t => .ok t
  | .null, none => .error (.invalidArgument .nullWithoutFallback)
  | v, _ => v.stringify.map quoteText

/-- One parameter of a query. -/
def parameter (key : Text) (v : Value) : Except MarkupError Text := do
  let text ← quote v none
  return quoteText key ++ '=' :: text

/-- Parameters in the order of their keys. -/
def sortParameters (parameters : List (Text × Value)) : List (Text × Value) :=
  parameters.mergeSort fun a b => a.1.atMost b.1

/-- A path with a query behind it, fit for a page. -/
def withQuery (path : Value) (parameters : List (Text × Value)) : Except MarkupError SafeText := do
  let path ← quote path none
  if parameters.isEmpty then
    return .trusted path
  else
    let texts ← (sortParameters parameters).mapM fun (key, v) => parameter key v
    return .trusted path ++ .escape ('?' :: ['&'].intercalate texts)

end EscapeOnce.Url
