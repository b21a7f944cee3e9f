import Parlance.Parser.Choice
import Parlance.Parser.Repetition
import Parlance.Parser.Terminal

/-!
# Blanks as text

Blanks are usually skipped without a word. The parsers here read them like any other text, also
inside a verbatim token.
-/

namespace Parlance.Token

open Parlance.Parser

/-- One blank symbol. -/
def whitespace : Parser String := pick [literal " ", literal "\t", literal "\r", literal "\n"]

/-- Any number of blanks, which may be none. -/
def skip : Parser (List String) := many whitespace

/-- One blank or more. -/
def gap : Parser (List String) := sequence whitespace

end Parlance.Token
