import Parlance.Command.Signature
import Parlance.CommandLine.Log
import Parlance.CommandLine.Options
import Parlance.Report
import Parlance.Text.Escaped

/-!
# Running the command line

The program reads messages as a command whose arguments are strings. It prints what each message
resolves to, and for each message that is not the command it warns in its log and gives a report of
the error. Messages do not affect one another: a run is the sum of what its messages give.
-/

namespace Parlance.CommandLine

open Command

/-! ## The command -/

/-- The command that the options declare. The mention that they set goes before the one from the
environment. -/
def Options.signature (o : Options) (environment : Option String) : Signature :=
  let mention := (o.mention <|> environment).getD defaultMention
  let arguments := o.required.map (Argument.string true) ++ o.optional.map (Argument.string false)
  .ofDeclarations o.aliases (.mention mention :: arguments.map .argument)

/-! ## Messages from a text -/

/-- A line without the carriage return that belongs to its end. The line is given backwards. -/
def finishLine : List Char → String
  | '\r' :: line => String.ofList line.reverse
  | line => String.ofList line.reverse

/-- The lines of a text. `line` holds the line begun, backwards. A line that no newline ends counts
if there is something in it, and keeps its carriage return. -/
def splitLines (line : List Char) : List Char → List String
  | [] => if line.isEmpty then [] else [String.ofList line.reverse]
  | c :: text =>
    if c = '\n' then finishLine line :: splitLines [] text else splitLines (c :: line) text

/-- The messages to read: those among the arguments, or else the lines of the input. -/
def Options.allMessages (o : Options) (input : String) : List String :=
  if o.messages.isEmpty then splitLines [] input.toList else o.messages

/-! ## Printing -/

/-- An argument with its value, for a reader. -/
def showArgument : String × Value → String
  | (name, .null) => name ++ "=<none>"
  | (name, .str text) => name ++ "=" ++ Text.quote text
  | (name, value) => name ++ "=" ++ value.describe

/-- A command in one line, for a reader. -/
def showCommand (c : Command) : String :=
  c.opening ++ c.label ++ " [" ++ ", ".intercalate (c.arguments.map showArgument) ++ "] " ++
    Text.quote c.remaining

/-- What is printed for a command. -/
def lineOf (json : Bool) (command : Command) : String :=
  if json then command.toJson.render else showCommand command

/-! ## Runs -/

/-- Something that is written to the standard error. -/
inductive Diagnostic where
  /-- An event that gets through to the log. -/
  | logged (event : Event)
  /-- The report of an error. -/
  | report (text : String)
deriving DecidableEq, Repr

/-- The text that is written, where `line` is what the log writes for an event. -/
def Diagnostic.text (line : Event → String) : Diagnostic → String
  | .logged event => line event
  | .report text => text ++ "\n"

/-- The events that get through to the standard error. -/
def Filter.pass (log : Filter) (events : List Event) : List Diagnostic :=
  (events.filter log.admits).map .logged

/-- What a run has printed and written to the standard error, and whether some message failed. -/
structure Outcome where
  output : String
  diagnostics : List Diagnostic
  failed : Bool
deriving DecidableEq, Repr

namespace Outcome

/-- A run that has done nothing. -/
def empty : Outcome := ⟨"", [], false⟩

/-- A run that has written to its log and done nothing else. -/
def logged (diagnostics : List Diagnostic) : Outcome := ⟨"", diagnostics, false⟩

/-- One run after another. -/
def append (a b : Outcome) : Outcome :=
  ⟨a.output ++ b.output, a.diagnostics ++ b.diagnostics, a.failed || b.failed⟩

instance : Append Outcome := ⟨append⟩

/-- The text of the standard error, where `line` is what the log writes for an event. If that is
left out, the log writes nothing. -/
def errors (o : Outcome) (line : Event → String := fun _ => "") : String :=
  String.join (o.diagnostics.map (Diagnostic.text line))

/-- The status that the program ends with. -/
def exitCode (o : Outcome) : Nat := if o.failed then 1 else 0

end Outcome

/-- What the log is told before the first message is read. -/
def Options.opening (o : Options) (environment : Option String) : List Event :=
  let s := o.signature environment
  .building s.aliases s.names s.required s.mention ::
    if o.messages.isEmpty then [.readingInput] else []

/-- What the log is told of a message that is read as a command, or rejected. A message that opens
as it should and gives a name of the command is rejected where the parts that may come in any order
have come to a halt. -/
def eventsOf (s : Signature) (message : String) : Except ParseError Command → List Event
  | .ok command => [.parsed command]
  | .error (.unexpectedSymbol offset _ "one of the remaining patterns") =>
    [.stalled offset, .rejected message s.required]
  | .error _ => [.rejected message s.required]

/-- What a message gives, by what it is read as. -/
def outcomeOf (s : Signature) (log : Filter) (json : Bool) (message : String)
    (result : Except ParseError Command) : Outcome :=
  let logged := log.pass (eventsOf s message result)
  match result with
  | .ok command => ⟨lineOf json command ++ "\n", logged, false⟩
  | .error e => ⟨"", logged ++ [.report (e.report message)], true⟩

/-- What a single message gives. -/
def runMessage (s : Signature) (log : Filter) (json : Bool) (message : String) : Outcome :=
  match s.parser.parseText message with
  | .error fault => ⟨"", [.report fault.message], true⟩
  | .ok reply => outcomeOf s log json message reply.result

/-- Runs the command line on the given options, environment and input. -/
def run (o : Options) (environment : Option String) (input : String)
    (log : Filter := .standard) : Outcome :=
  let s := o.signature environment
  .logged (log.pass (o.opening environment)) ++
    ((o.allMessages input).map (runMessage s log o.json)).foldr (· ++ ·) .empty

end Parlance.CommandLine
