import Parlance.Parser

/-!
# Parsers around parsers

Sequences, conversions that may refuse a value, and parsers that change how another one is run:
to the end of the text, as one token, or with the span it covers.
-/

namespace Parlance.Parser

variable {α β : Type}

/-- Several parsers in a row. The first error is the error of the whole, and what was read before
it stays read. -/
def few (parts : Parse α) : Parser α := ⟨"few", false, parts⟩

/-- Each of the parsers once, in order. -/
def parseAll : List (Parser α) → Parse (List α)
  | [] => pure []
  | p :: parsers => do
    let value ← p.parse
    let values ← parseAll parsers
    pure (value :: values)

/-- Reads with `p` and passes the value on to `f`, which sees the cursor and may still refuse. -/
def map (tag : String) (p : Parser α) (f : α → Parse β) : Parser β where
  tag := tag
  skipsBlank := false
  attempt := do
    let value ← p.parse
    f value

/-- What `p` reads, provided that nothing is left over. -/
def only (p : Parser α) : Parser α where
  tag := "only(" ++ p.tag ++ ")"
  skipsBlank := false
  attempt := do
    let value ← p.parse.speculate
    let c ← Parse.get
    if c.isAtEnd then pure value else Parse.fail Cursor.expectedEnd

/-- What `p` reads as one token: blanks are skipped before it and not inside it. -/
def verbatim (p : Parser α) : Parser α where
  tag := p.tag
  skipsBlank := true
  attempt := p.parse.verbatim

/-- What `p` reads and the span it covers, without blanks that `p` skips in front. -/
def spanned (p : Parser α) : Parser (α × Span) where
  tag := p.tag
  skipsBlank := false
  attempt := do
    Parse.modify p.approach
    let before ← Parse.get
    let value ← p.attempt
    let after ← Parse.get
    pure (value, ⟨before.offset, after.offset⟩)

/-- The same parser, with every attempt counted. -/
def metered (p : Parser α) : Parser α := { p with attempt := p.attempt.counted }

end Parlance.Parser
