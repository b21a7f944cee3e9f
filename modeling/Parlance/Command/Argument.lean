import Parlance.Parser.Choice
import Parlance.Parser.Terminal
import Parlance.Parser.Wrapper
import Parlance.Token.Blank
import Parlance.Token.Quoted
import Parlance.Value

/-!
# Arguments

An argument of a command is written as a dash, its name, blanks, and a value of its kind. It is
required or may be left out, and then it stands for no value.
-/

namespace Parlance.Command

open Parlance.Parser

variable {α : Type}

/-- A dash directly followed by a name. -/
def flag (name : String) : Parser String :=
  map "flag" (verbatim (few do
      let _ ← (literal "-").parse
      (literal name).parse))
    pure

/-- The flag for `name`, blanks, and a value. Blanks in front of the flag are read as well. -/
def positional (name : String) (kind : Parser α) : Parser α :=
  map ("-" ++ name) (few do
      let _ ← Token.skip.parse
      let _ ← (flag name).parse
      let _ ← Token.gap.parse
      kind.parse)
    pure

/-- An argument of a command. -/
structure Argument where
  name : String
  required : Bool
  /-- How its value is written. -/
  kind : Parser Value

/-- An argument whose value is a string. -/
def Argument.string (required : Bool) (name : String) : Argument :=
  ⟨name, required, Token.string.convert .str⟩

/-- The argument as a parser of its value. -/
def Argument.parser (a : Argument) : Parser Value :=
  if a.required then map "argument" (positional a.name a.kind) pure
  else map "optional argument" (optional (positional a.name a.kind)) fun value =>
    pure (Value.ofOption value)

end Parlance.Command
