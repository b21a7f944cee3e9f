import Parlance.Unicode.Unprintable

/-!
# Quoted text for a reader

A text in double quotes or a symbol in single ones, written so that a reader can tell every symbol
of it: symbols that do not show are given by their code point.
-/

namespace Parlance.Text

/-- A symbol by its code point. -/
def codePoint (c : Char) : String :=
  "\\u\x7b" ++ String.ofList (Nat.toDigits 16 c.toNat) ++ "\x7d"

/-- A symbol as it stands between two quotation marks of the given kind. -/
def escapeSymbol (mark c : Char) : String :=
  if c = '\x00' then "\\0"
  else if c = '\t' then "\\t"
  else if c = '\r' then "\\r"
  else if c = '\n' then "\\n"
  else if c = '\\' then "\\\\"
  else if c = mark then String.ofList ['\\', mark]
  else if c = ' ' ∨ Unicode.isPrintable c then String.singleton c
  else codePoint c

/-- The text in quotes. -/
def quote (text : String) : String :=
  "\"" ++ String.join (text.toList.map (escapeSymbol '"')) ++ "\""

/-- The symbol in quotes, which are single ones. -/
def quoteSymbol (c : Char) : String := "'" ++ escapeSymbol '\'' c ++ "'"

end Parlance.Text
