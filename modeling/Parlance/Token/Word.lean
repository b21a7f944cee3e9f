import Parlance.Parser.Repetition
import Parlance.Parser.Wrapper
import Parlance.Token.Letter

/-!
# Words

A word is a run of solid symbols, and an identifier a run of letters, digits, `-` and `_`.
-/

namespace Parlance.Token

open Parlance.Parser

/-- One symbol that is not blank. -/
def solid : Parser Char :=
  raw "non-whitespace" do
    match ← Parse.advance with
    | none => Parse.fail (Cursor.unexpectedSymbol "non-whitespace symbol")
    | some c =>
      if isBlank c then Parse.fail (Cursor.unexpectedSymbol "non-whitespace symbol")
      else pure c

/-- One or more solid symbols. -/
def word : Parser String :=
  map "word" (verbatim (sequence solid)) fun symbols => pure (String.ofList symbols)

/-- One symbol of an identifier. -/
def identifierSymbol : Parser Char := pick [alphanumeric, symbol '-', symbol '_']

/-- One or more letters, digits, `-` and `_`. -/
def identifier : Parser String :=
  map "identifier" (verbatim (sequence identifierSymbol)) fun symbols =>
    pure (String.ofList symbols)

end Parlance.Token
