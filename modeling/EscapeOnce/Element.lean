import EscapeOnce.Value.Conversion

/-!
# Elements

Opening tags with their attributes, links, and line breaks.  Names of tags and attributes are
written as they are; values stand escaped between double quotes.
-/

namespace EscapeOnce

/-- The value of an attribute. -/
inductive AttributeValue where
  /-- Escaped between quotes; a null leaves the attribute out. -/
  | value (v : Value)
  /-- No value: the name is written in its place. -/
  | valueless

/-- An attribute. -/
structure Attribute where
  name : Text
  value : AttributeValue

namespace Attribute

/-- The text of an attribute inside a tag. -/
def render (a : Attribute) : Except MarkupError Text :=
  match a.value with
  | .value .null => .ok []
  | .value v => v.toSafe.map fun s => quoted s
  | .valueless => .ok (quoted (.escape a.name))
where
  /-- The attribute with the text of its value between quotes. -/
  quoted (s : SafeText) : Text := ' ' :: a.name ++ ['=', '"'] ++ s.buffer ++ ['"']

/-- The class attribute with a given text. -/
def ofClass (t : Text) : Attribute := ⟨"class".toList, .value (.str t)⟩

/-- The attribute names the class of an element. -/
def isClass (a : Attribute) : Bool := a.name = "class".toList

/-- The attributes with a class: it takes the place of every class attribute, or comes last if there
is none. -/
def withClass (cssClass : Option Text) (attributes : List Attribute) : List Attribute :=
  match cssClass with
  | none => attributes
  | some t =>
    if attributes.any isClass then attributes.map fun a => if a.isClass then ofClass t else a
    else attributes ++ [ofClass t]

end Attribute

namespace SafeText

/-- An opening tag; `selfClosing` writes the end of an empty element. -/
def openTag (tag : Text) (attributes : List Attribute) (cssClass : Option Text)
    (selfClosing : Bool) : Except MarkupError SafeText := do
  let rendered ← (Attribute.withClass cssClass attributes).mapM Attribute.render
  let ending := if selfClosing then " />".toList else ">".toList
  return trusted ('<' :: tag ++ rendered.flatten ++ ending)

/-- A link to `url` that shows `text`. -/
def link (url text : Value) (title : Option Text) : Except MarkupError SafeText := do
  let titleValue := match title with
    | some t => Value.str t
    | none => Value.null
  let opening ← openTag "a".toList
    [⟨"href".toList, .value url⟩, ⟨"title".toList, .value titleValue⟩] none false
  let content ← text.toSafe
  return opening ++ content ++ trusted "</a>".toList

/-- The safe form of a value with a line-break element before every line feed. -/
def withLineBreaks (v : Value) : Except MarkupError SafeText :=
  v.toSafe.map fun s =>
    trusted (s.buffer.flatMap fun c => if c = '\n' then "<br />\n".toList else [c])

end SafeText

end EscapeOnce
