/-!
# Options of the command line

What the arguments of the program ask for. An option is given as `--name value` or as
`--name=value`, options and messages may be mixed, and after `--` all arguments are messages. Asking
for help, by `--help` or `-h`, ends the reading like a mistake.

An argument that starts with a dash is an option, except for a lone dash. So it cannot be a value
either, unless an equals sign joins it to its option.
-/

namespace Parlance.CommandLine

/-- What the program is asked for. -/
structure Options where
  mention : Option String := none
  aliases : List String := []
  /-- The names of required arguments. -/
  required : List String := []
  /-- The names of arguments that may be left out. -/
  optional : List String := []
  json : Bool := false
  messages : List String := []
deriving DecidableEq, Repr

/-- Why arguments do not lead to a run. -/
inductive UsageError where
  /-- There is no mistake so far, and help is asked for. -/
  | help
  | unknownOption (argument : String)
  | missingValue (option : String)
  | needlessValue (option : String)
  | repeatedOption (option : String)
  | missingAlias
deriving DecidableEq, Repr

namespace Options

/-- Adds a message. -/
def addMessage (o : Options) (message : String) : Options :=
  { o with messages := o.messages ++ [message] }

/-- Whether there is an option of that name that takes a value. -/
def takesValue (name : String) : Bool :=
  name = "mention" || name = "alias" || name = "arg" || name = "optional"

/-- Gives an option its value. -/
def set (o : Options) (name value : String) : Except UsageError Options :=
  if name = "mention" then
    if o.mention.isSome then .error (.repeatedOption name)
    else .ok { o with mention := some value }
  else if name = "alias" then .ok { o with aliases := o.aliases ++ [value] }
  else if name = "arg" then .ok { o with required := o.required ++ [value] }
  else if name = "optional" then .ok { o with optional := o.optional ++ [value] }
  else .error (.unknownOption name)

/-- Sets the option that has no value. -/
def setJson (o : Options) : Except UsageError Options :=
  if o.json then .error (.repeatedOption "json") else .ok { o with json := true }

/-- What a single argument is. -/
inductive Kind where
  /-- The end of all options. -/
  | separator
  | message (text : String)
  | option (name : String)
  | optionWithValue (name value : String)
  /-- The short way to ask for help. -/
  | help
  /-- A dash and something that is no option. -/
  | unknown (text : String)

/-- Tells what an argument is by its form. -/
def classify (argument : String) : Kind :=
  match argument.toList with
  | ['-', '-'] => .separator
  | '-' :: '-' :: text =>
    let name := String.ofList (text.takeWhile (· ≠ '='))
    match text.dropWhile (· ≠ '=') with
    | _ :: value => .optionWithValue name (String.ofList value)
    | [] => .option name
  | '-' :: 'h' :: _ => .help
  | '-' :: _ :: _ => .unknown argument
  | _ => .message argument

/-- Goes through the arguments. -/
def readArguments (o : Options) : List String → Except UsageError Options
  | [] => .ok o
  | argument :: rest =>
    match classify argument with
    | .separator => .ok { o with messages := o.messages ++ rest }
    | .message text => readArguments (o.addMessage text) rest
    | .help => .error .help
    | .unknown text => .error (.unknownOption text)
    | .optionWithValue name value =>
      if name = "json" ∨ name = "help" then .error (.needlessValue name)
      else do
        let o ← o.set name value
        readArguments o rest
    | .option name =>
      if name = "help" then .error .help
      else if name = "json" then do
        let o ← o.setJson
        readArguments o rest
      else if takesValue name then
        match rest with
        | [] => .error (.missingValue name)
        | next :: rest =>
          match classify next with
          | .message value => do
            let o ← o.set name value
            readArguments o rest
          | _ => .error (.missingValue name)
      else .error (.unknownOption name)

/-- The options that the arguments give. There has to be a name for the command. -/
def ofArguments (arguments : List String) : Except UsageError Options := do
  let o ← readArguments {} arguments
  if o.aliases.isEmpty then .error .missingAlias else return o

end Options

end Parlance.CommandLine
