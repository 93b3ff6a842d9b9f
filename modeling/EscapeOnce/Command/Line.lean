import EscapeOnce.Command

/-!
# Command lines

The first word of a command line names a command, and the others are its options and operands.

An option has a letter and a name.  Its value may be attached, behind an equals sign or, for the
letter, directly, or may be the next word.  A value that begins with a hyphen has to be attached,
because a word that does is an option; a hyphen alone is a value like any other.  The word `--` ends
the options: what follows are operands.

`Line.read` sorts the words of a line into options and operands, and `Command.ofLine?` makes a
command of them.  Any line that is not one of a command is refused without a reason.

Logging is left out, and with it the one option that every command has, `--log-file`; so are the
lines that ask for help or for the version.  They are refused here like any other line.
-/

namespace EscapeOnce

namespace Line

/-- An option that a command takes, named by a letter and by a word. -/
structure OptionName where
  letter : Char
  word : Text
  deriving DecidableEq

/-- A line that has been read: options with their values, and operands, each in order. -/
structure Parts where
  options : List (Char × Text)
  operands : List Text
  deriving DecidableEq

/-- The word can be the value of an option before it. -/
def isDetachedValue : Text → Bool
  | ['-'] => true
  | '-' :: _ => false
  | _ => true

/-- A word that begins with a hyphen and is more than that: the option that it names, by its
letter, and the value that is attached to it. -/
def readOption? (known : List OptionName) : Text → Option (Char × Option Text)
  | '-' :: '-' :: t =>
    let (word, value) := match Text.cutAt? '=' t with
      | some (word, value) => (word, some value)
      | none => (t, none)
    (known.find? fun o => o.word = word).map fun o => (o.letter, value)
  | '-' :: letter :: t =>
    let value := match t with
      | [] => none
      | '=' :: value => some value
      | value => some value
    (known.find? fun o => o.letter = letter).map fun o => (o.letter, value)
  | _ => none

/-- Sorts the words of a line into options and operands. -/
def read (known : List OptionName) : List Text → Option Parts
  | [] => some ⟨[], []⟩
  | word :: words =>
    if word = ['-', '-'] then
      some ⟨[], words⟩
    else if isDetachedValue word then
      (read known words).map fun parts => { parts with operands := word :: parts.operands }
    else
      match readOption? known word, words with
      | none, _ => none
      | some (letter, some value), words =>
        (read known words).map fun parts =>
          { parts with options := (letter, value) :: parts.options }
      | some (_, none), [] => none
      | some (letter, none), value :: words =>
        if isDetachedValue value then
          (read known words).map fun parts =>
            { parts with options := (letter, value) :: parts.options }
        else
          none

/-- The values of an option, in order. -/
def Parts.values (parts : Parts) (letter : Char) : List Text :=
  (parts.options.filter fun o => o.1 = letter).map Prod.snd

/-- The value of an option that may be given once: a line that repeats it is refused. -/
def Parts.value? (parts : Parts) (letter : Char) : Option (Option Text) :=
  match parts.values letter with
  | [] => some none
  | [value] => some (some value)
  | _ => none

end Line

/-- The style with a name. -/
def Style.ofName? (t : Text) : Option Style :=
  if t = "brace".toList then some .brace
  else if t = "percent".toList then some .percent
  else none

namespace Command

/-- The options of the command that fills in a template. -/
def formatOptions : List Line.OptionName :=
  [⟨'s', "style".toList⟩, ⟨'a', "arg".toList⟩, ⟨'n', "named".toList⟩, ⟨'j', "json".toList⟩]

/-- The options of the command that puts together a page. -/
def renderOptions : List Line.OptionName := [⟨'m', "mode".toList⟩]

/-- The command that fills in a template, from its parts. -/
def formatOfParts (parts : Line.Parts) : Option Command := do
  let style ← match ← parts.value? 's' with
    | some name => Style.ofName? name
    | none => some .brace
  let named ← (parts.values 'n').mapM (Text.cutAt? '=')
  let json ← parts.value? 'j'
  match parts.operands with
  | [template] => return .format template style (parts.values 'a') named json
  | _ => none

/-- The command that puts together a page, from its parts. -/
def renderOfParts (parts : Line.Parts) : Option Command := do
  let mode ← match ← parts.value? 'm' with
    | some name => (OutputMode.parse name).toOption
    | none => some .html
  if parts.operands.isEmpty then return .render mode else none

/-- The command that a line asks for.  A line with `--log-file` asks for none here, since nothing is
logged. -/
def ofLine? : List Text → Option Command
  | [] => none
  | name :: words =>
    if name = "escape".toList then
      (Line.read [] words).map fun parts => .escape parts.operands
    else if name = "format".toList then
      (Line.read formatOptions words).bind formatOfParts
    else if name = "render".toList then
      (Line.read renderOptions words).bind renderOfParts
    else
      none

/-- What a command line prints, given standard input. -/
def runLine (words : List Text) (input : ByteArray) : Except CommandError Text :=
  match ofLine? words with
  | some command => command.run input
  | none => .error .usage

end Command

end EscapeOnce
