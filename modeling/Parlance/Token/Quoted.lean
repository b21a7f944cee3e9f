import Parlance.Token.Word

/-!
# Quoted strings

Text between two equal delimiters, in which a backslash and one of six symbols stand for a single
symbol. A backslash in front of anything else stands for itself.
-/

namespace Parlance.Token

open Parlance.Parser

/-- The symbol that the letter after a backslash stands for. -/
def unescape : String → Char
  | "n" => '\n'
  | "t" => '\t'
  | "r" => '\r'
  | "'" => '\''
  | "\\" => '\\'
  | _ => '"'

/-- The texts that may follow a backslash. -/
def escapeLetters : List String := ["\"", "'", "\\", "n", "t", "r"]

/-- A backslash and the letter after it, read as the symbol they stand for. -/
def escape : Parser Char :=
  map "escape" (verbatim (few do
      let _ ← (literal "\\").parse
      (pick (escapeLetters.map literal)).parse))
    fun letter => pure (unescape letter)

/-- One symbol other than the delimiter. -/
def quotedSymbol (delimiter : Char) : Parser Char :=
  raw "quoted symbol" do
    match ← Parse.advance with
    | none => Parse.fail (Cursor.unexpectedEnd ("closing " ++ String.singleton delimiter))
    | some c =>
      if c = delimiter then
        Parse.fail (Cursor.unexpectedSymbol ("any symbol but " ++ String.singleton delimiter))
      else pure c

/-- The text between two delimiters, with escapes resolved. -/
def quoted (delimiter : Char) : Parser String :=
  map "quoted" (verbatim (few do
      let _ ← (symbol delimiter).parse
      let symbols ← (many (pick [escape, quotedSymbol delimiter])).parse
      let _ ← (symbol delimiter).parse
      pure symbols))
    fun symbols => pure (String.ofList symbols)

/-- A string in double or in single quotes. -/
def quotedString : Parser String := pick [quoted '"', quoted '\'']

/-- A quoted string, or a bare word if that fails. -/
def string : Parser String := pick [quotedString, word]

end Parlance.Token
