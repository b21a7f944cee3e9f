import Parlance.Parser

/-!
# Parsers of symbols

The parsers that look at the text itself: a fixed text, one symbol out of a range, whatever a
hand-written parse reads, and all the rest.
-/

namespace Parlance.Parser

variable {α : Type}

/-- A parse that someone wrote by hand, under the name `tag`. Blanks in front of it are skipped. -/
def raw (tag : String) (action : Parse α) : Parser α := ⟨tag, true, action⟩

/-- Reads the given symbols one by one and stops at the first that differs. Running out of text
is a difference like any other. -/
def matchSymbols (text : String) : List Char → Parse Unit
  | [] => pure ()
  | wanted :: rest => do
    let found ← Parse.advance
    if found = some wanted then matchSymbols text rest
    else Parse.fail (Cursor.unexpectedSymbol
      (String.singleton wanted ++ " (full string: " ++ text ++ ")"))

/-- Exactly `text`. Blanks in front are skipped unless `text` is empty or starts with a blank. -/
def literal (text : String) : Parser String where
  tag := text
  skipsBlank := startsSolid text.toList
  attempt := do
    matchSymbols text text.toList
    pure text

/-- The name of a range of symbols. -/
def rangeTag (low high : Char) : String :=
  "[" ++ String.singleton low ++ "-" ++ String.singleton high ++ "]"

/-- One symbol from `low` to `high`, both included. -/
def range (low high : Char) : Parser Char :=
  raw (rangeTag low high) do
    match ← Parse.advance with
    | none => Parse.fail (Cursor.unexpectedSymbol (rangeTag low high))
    | some c =>
      if low ≤ c ∧ c ≤ high then pure c
      else Parse.fail (Cursor.unexpectedSymbol (rangeTag low high))

/-- One symbol, which must be `c`. -/
def symbol (c : Char) : Parser Char := range c c

/-- All the rest of the text, blanks included. -/
def rest : Parser String where
  tag := "greedy string"
  skipsBlank := false
  attempt := do
    let c ← Parse.get
    Parse.modify (·.advanceBytes (byteLength c.ahead))
    pure c.tail

end Parlance.Parser
