import Parlance.CommandLine.Run

/-!
# The program

Takes its options from the command line and the mention of the bot from the environment, and reads
messages from standard input if no argument is one. Its log has the standard filter.
-/

namespace Parlance.CommandLine

/-- The status of a program that was not called properly. -/
def usageStatus : UInt32 := 2

/-- How the program is called. -/
def usage : String := "Usage: chatcomb [OPTIONS] --alias <ALIASES> [MESSAGES]..."

/-- The name of the variable in the environment that sets the mention. -/
def mentionVariable : String := "CHATCOMB_MENTION"

/-- What the options are for. -/
def help : String :=
  "Parse chat messages as commands and print what they resolve to\n\n" ++
  usage ++ "\n\n" ++
  "Arguments:\n" ++
  "  [MESSAGES]...  Messages to parse; read from stdin, one per line, when none are given\n\n" ++
  "Options:\n" ++
  "      --mention <MENTION>    Mention that counts as a command prefix besides `/` and `$` " ++
    "[env: " ++ mentionVariable ++ "=]\n" ++
  "      --alias <ALIASES>      Command name to accept; repeat for aliases\n" ++
  "      --arg <REQUIRED>       Required string argument, written as `-name value`\n" ++
  "      --optional <OPTIONAL>  Optional string argument, written as `-name value`\n" ++
  "      --json                 Print each command as one JSON object\n" ++
  "  -h, --help                 Print help"

/-- Reads a stream to its end. -/
partial def readAll (stream : IO.FS.Stream) (text : String) : IO String := do
  let line ← stream.getLine
  if line.isEmpty then return text else readAll stream (text ++ line)

/-- Runs the program on its arguments and gives its status. -/
def program (arguments : List String) : IO UInt32 := do
  match Options.ofArguments arguments with
  | .error .help =>
    IO.println help
    return 0
  | .error _ =>
    IO.eprintln usage
    return usageStatus
  | .ok options =>
    let environment ← IO.getEnv mentionVariable
    let input ← if options.messages.isEmpty then readAll (← IO.getStdin) "" else pure ""
    let outcome := run options environment input .standard
    IO.print outcome.output
    IO.eprint (outcome.errors Event.line)
    return outcome.exitCode.toUInt32

end Parlance.CommandLine

def main (arguments : List String) : IO UInt32 := Parlance.CommandLine.program arguments
