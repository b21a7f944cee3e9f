import Parlance.Command
import Parlance.Command.Argument
import Parlance.Command.Opener
import Parlance.Parser.Unordered

/-!
# Signatures

A signature declares a command: its names, its arguments, and the mention that may open it. The
parser of a signature reads a message as an opening, a name, the arguments in any order, and the
text after them.
-/

namespace Parlance.Command

open Parlance.Parser

/-- The declaration of a command. -/
structure Signature where
  /-- The names of the command. Where several would do, the first is taken. -/
  aliases : List String
  arguments : List Argument
  mention : String

namespace Signature

/-- A command without arguments. -/
def ofAliases (aliases : List String) : Signature := ⟨aliases, [], defaultMention⟩

/-- Declares an argument. One of that name that has been declared before is dropped. -/
def declare (s : Signature) (a : Argument) : Signature :=
  { s with arguments := s.arguments.filter (·.name ≠ a.name) ++ [a] }

/-- Sets the mention that may open a message. -/
def withMention (s : Signature) (mention : String) : Signature := { s with mention := mention }

/-- One step in the declaration of a command. -/
inductive Declaration where
  | argument (a : Argument)
  | mention (mention : String)
  | config (config : OpenerConfig)

/-- The signature after one more step. -/
def apply (s : Signature) : Declaration → Signature
  | .argument a => s.declare a
  | .mention mention => s.withMention mention
  | .config config => s.withMention config.mention

/-- The signature that the steps declare, one after another. -/
def ofDeclarations (aliases : List String) (steps : List Declaration) : Signature :=
  steps.foldl apply (ofAliases aliases)

/-- The names of all arguments, in the order of declaration. -/
def names (s : Signature) : List String := s.arguments.map Argument.name

/-- The names of the arguments that every message has to give. -/
def required (s : Signature) : List String :=
  (s.arguments.filter Argument.required).map Argument.name

/-- Blanks and then all the rest of the text. It never fails. -/
def remainder : Parser Value :=
  map "remainder" (optional (few do
      let _ ← Token.skip.parse
      rest.parse))
    fun text => pure (.str (text.getD ""))

/-- The parsers of the parts that may come in any order. -/
def entries (s : Signature) : List (Parser Value) :=
  s.arguments.map Argument.parser ++ [remainder]

/-- The command with the given parts. The last value is the text left over, and the others belong
to the arguments. -/
def assemble (s : Signature) (opening label : String) (values : List Value) : Command where
  opening := opening
  label := label
  arguments := .ofList (s.names.zip values.dropLast)
  remaining := ((values.getLast?).bind Value.asStr).getD ""

/-- The parser of messages that give this command. -/
def parser (s : Signature) : Parser Command :=
  map "command" (few do
      let opening ← (opener s.mention).parse
      let label ← (pick (s.aliases.map literal)).parse
      let values ← (unordered s.entries).parse
      pure (opening, label, values))
    fun (opening, label, values) => pure (s.assemble opening label values)

end Signature

end Parlance.Command
