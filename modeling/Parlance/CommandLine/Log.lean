import Parlance.Command

/-!
# The log

While it runs, the program tells its log what it does. A filter decides which of these events get
through, and those that do are written to the standard error, between the reports. Unless another
filter is chosen, warnings get through, and nothing that is less urgent.
-/

namespace Parlance.CommandLine

/-- How urgent an event is, from the most urgent to the least. -/
inductive Level where
  | error
  | warn
  | info
  | debug
  | trace
deriving DecidableEq, Repr

namespace Level

/-- The place in the order, counted from the most urgent. -/
def place : Level → Nat
  | .error => 0
  | .warn => 1
  | .info => 2
  | .debug => 3
  | .trace => 4

/-- The name as it stands in a line of the log. -/
def name : Level → String
  | .error => "ERROR"
  | .warn => "WARN"
  | .info => "INFO"
  | .debug => "DEBUG"
  | .trace => "TRACE"

end Level

/-! ## Events -/

/-- Something that the program tells its log. -/
inductive Event where
  /-- A command is put together from its declaration. -/
  | building (aliases arguments required : List String) (mention : String)
  /-- The messages are going to be read from the input. -/
  | readingInput
  /-- A message has been understood. -/
  | parsed (command : Command)
  /-- No part of a message that is still missing can be read at that offset. -/
  | stalled (offset : Nat)
  /-- A message is not the command, which has these required arguments. -/
  | rejected (message : String) (required : List String)
deriving DecidableEq, Repr

namespace Event

/-- How urgent the event is. -/
def level : Event → Level
  | .building _ _ _ _ | .readingInput => .debug
  | .parsed _ | .stalled _ => .trace
  | .rejected _ _ => .warn

/-- The part of the program that tells of the event. -/
def origin : Event → String
  | .building _ _ _ _ | .parsed _ => "chatcomb::command"
  | .stalled _ => "chatcomb::unordered"
  | .readingInput | .rejected _ _ => "chatcomb"

/-- Several texts in quotes. -/
def quoteAll (texts : List String) : String :=
  "[" ++ ", ".intercalate (texts.map Text.quote) ++ "]"

/-- What the program tells. -/
def text : Event → String
  | .building aliases arguments required mention =>
    "building command grammar aliases=" ++ quoteAll aliases ++
      " arguments=" ++ quoteAll arguments ++ " required=" ++ quoteAll required ++
      " mention=" ++ mention
  | .readingInput => "reading messages from stdin"
  | .parsed command => "parsed command command=" ++ command.describe
  | .stalled offset => "unordered pass resolved nothing offset=" ++ toString offset
  | .rejected message required =>
    "message is not a command " ++ message ++ " required=" ++ quoteAll required

/-- The line for the event, but for the time that stands in front of it. -/
def line (e : Event) : String :=
  String.ofList (e.level.name.toList.leftpad 5 ' ') ++ " " ++ e.origin ++ ": " ++ e.text ++ "\n"

end Event

/-! ## Filters -/

/-- Decides which events get through. -/
structure Filter where
  admits : Event → Bool

namespace Filter

/-- Nothing gets through. -/
def off : Filter := ⟨fun _ => false⟩

/-- What is as urgent as `level` or more gets through. -/
def upTo (level : Level) : Filter := ⟨fun event => event.level.place ≤ level.place⟩

/-- The filter that is used if none is chosen. -/
def standard : Filter := .upTo .warn

end Filter

end Parlance.CommandLine
