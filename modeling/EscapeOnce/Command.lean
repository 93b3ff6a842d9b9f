import EscapeOnce.Accumulator
import EscapeOnce.Json.Reading
import EscapeOnce.SafeText.Operations
import EscapeOnce.Value.OfJson

/-!
# Commands

The three things that the program does for a user at a terminal: escape texts, fill in a template,
and put together a page from a list of fragments.  A command is data, and running it is a function
of the command and of what stands on standard input, which is read only by a command that needs it.
The result is what the command prints.
-/

namespace EscapeOnce

/-- The placeholder style of a template. -/
inductive Style where
  | brace
  | percent
  deriving DecidableEq

/-- What a user can ask for. -/
inductive Command where
  /-- Escape each text, or standard input if there is none. -/
  | escape (texts : List Text)
  /-- Fill in a template.  Positional and named arguments may be followed by a JSON text with more:
  an array of positional ones, an object of named ones, or a single positional one. -/
  | format (template : Text) (style : Style) (args : List Text) (named : List (Text × Text))
      (json : Option Text)
  /-- Put together the fragments on standard input, a JSON array. -/
  | render (mode : OutputMode)
  deriving DecidableEq

/-- Why a command, or the line that asked for it, did not succeed. -/
inductive CommandError where
  /-- The command line is not one of a command. -/
  | usage
  /-- Standard input is not text. -/
  | unreadableInput
  /-- A JSON text cannot be read or has the wrong shape. -/
  | malformedJson
  | markup (error : MarkupError)
  deriving DecidableEq

/-! ## Fragments -/

/-- A fragment of a page: safe if it is an object whose one member is a string under the name
`safe`, or an array of one string, which is the same record without its name.  Any other document
is raw. -/
def Json.fragment : Json → Value
  | .object [(name, .string t)] =>
    if name = "safe".toList then .safe (.trusted t) else .ofJson (.object [(name, .string t)])
  | .array [.string t] => .safe (.trusted t)
  | document => .ofJson document

/-- The page made of fragments. -/
def renderFragments (mode : OutputMode) (fragments : List Json) : Except MarkupError Rendered := do
  let a ← (Accumulator.empty mode).appendAll (fragments.map Json.fragment)
  return a.finalize

/-! ## Arguments of a template -/

/-- Named arguments as pairs of texts, the last of a name in the place of the first. -/
def Command.givenNamed (named : List (Text × Text)) : Dict Value :=
  Dict.ofList (named.map fun (key, t) => (key, .str t))

/-- Named arguments, and the members of an object over them. -/
def withMembers (named : Dict Value) (members : List (Text × Json)) : Dict Value :=
  named.insertAll (Dict.sortedOf (Value.ofMembers members))

/-- Adds the arguments that a JSON document stands for. -/
def addJsonArguments (args : List Value) (named : Dict Value) : Json → List Value × Dict Value
  | .array elements => (args ++ Value.ofElements elements, named)
  | .object members => (args, withMembers named members)
  | document => (args ++ [.ofJson document], named)

/-- Fills in a template of either style.  A percent template takes its arguments by name if there
are named ones, and then no positional ones. -/
def Style.substitute (style : Style) (template : SafeText) (args : List Value)
    (named : Dict Value) : Except MarkupError SafeText :=
  match style with
  | .brace => template.format args named
  | .percent =>
    if named.isEmpty then template.interpolate (.positional args)
    else if args.isEmpty then template.interpolate (.named named)
    else .error (.invalidArgument .mixedArguments)

/-! ## Running -/

/-- The text of standard input. -/
def readInput (input : ByteArray) : Except CommandError Text :=
  match String.fromUTF8? input with
  | some t => .ok t.toList
  | none => .error .unreadableInput

/-- The document of a JSON text. -/
def readJson (t : Text) : Except CommandError Json :=
  match Json.parse t with
  | some document => .ok document
  | none => .error .malformedJson

/-- A line of output. -/
def line (t : Text) : Text := t ++ ['\n']

/-- What is printed of a filled in template: the template as a line, or its error. -/
def Command.printed (result : Except MarkupError SafeText) : Except CommandError Text :=
  (result.mapError .markup).map fun s => line s.buffer

/-- The command reads standard input. -/
def Command.readsInput : Command → Bool
  | escape texts => texts.isEmpty
  | format .. => false
  | render _ => true

/-- What a command prints, given standard input. -/
def Command.run (input : ByteArray) : Command → Except CommandError Text
  | escape [] => do
    let t ← readInput input
    return line (Entity.escape t)
  | escape texts => .ok (texts.flatMap fun t => line (Entity.escape t))
  | format template style args named json => do
    let args := args.map Value.str
    let named := givenNamed named
    let (args, named) ← match json with
      | none => pure (args, named)
      | some t => (readJson t).map (addJsonArguments args named)
    printed (style.substitute (.trusted template) args named)
  | render mode => do
    match ← readJson (← readInput input) with
    | .array fragments =>
      let result ← (renderFragments mode fragments).mapError .markup
      return line result.toText
    | _ => .error .malformedJson

end EscapeOnce
