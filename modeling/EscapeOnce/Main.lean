import EscapeOnce.Command.Line

/-!
# The program

Runs the command that its arguments ask for.  Nothing is decided here: what is printed is
`Command.run` of the command that the line asks for.
-/

namespace EscapeOnce

/-- The words for the failure of a command. -/
def CommandError.message : CommandError → Text
  | usage => "usage: escape [TEXT]... | format TEMPLATE [OPTION]... | render [--mode MODE]".toList
  | unreadableInput => "standard input is not valid UTF-8".toList
  | malformedJson => "malformed JSON".toList
  | markup error => error.message

/-- The exit code for the failure of a command. -/
def CommandError.exitCode : CommandError → UInt32
  | usage => 2
  | _ => 1

end EscapeOnce

open EscapeOnce in
/-- Runs the command that the arguments ask for. -/
def main (arguments : List String) : IO UInt32 := do
  let outcome ← match Command.ofLine? (arguments.map String.toList) with
    | none => pure (.error .usage)
    | some command =>
      let input ← if command.readsInput then (← IO.getStdin).readBinToEnd else pure ByteArray.empty
      pure (command.run input)
  match outcome with
  | .ok text =>
    IO.print (String.ofList text)
    return 0
  | .error error =>
    IO.eprintln (String.ofList error.message)
    return error.exitCode
