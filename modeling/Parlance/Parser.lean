import Parlance.Parse

/-!
# Parsers

A parser is a parse with a tag, which names it in error messages, and with a say in whether blanks
in front of it are skipped. Parsers of single tokens skip them; parsers put together from others
leave that to their parts.

A parser is a value without any state: all that changes during a parse is the cursor.
-/

namespace Parlance

/-- A named way to read a value of type `α`. -/
structure Parser (α : Type) where
  /-- The name that error messages use. -/
  tag : String
  /-- Whether blanks in front of the text are skipped. -/
  skipsBlank : Bool
  /-- Reads from where the cursor stands, without skipping blanks first. -/
  attempt : Parse α

namespace Parser

variable {α β : Type}

/-- Moves a cursor to where the attempt begins. -/
def approach (p : Parser α) (c : Cursor) : Cursor :=
  if p.skipsBlank then c.skipBlank else c

/-- Skips blanks if the parser does so, and then attempts to read. -/
def parse (p : Parser α) : Parse α := fun c => p.attempt (p.approach c)

/-- Parses `text` from its start with a fresh cursor. -/
def parseText (p : Parser α) (text : String) : Except Fault (Reply α) :=
  p.parse (Cursor.ofString text)

/-- Changes the value that is read and nothing else. -/
def convert (f : α → β) (p : Parser α) : Parser β where
  tag := p.tag
  skipsBlank := p.skipsBlank
  attempt := do
    let value ← p.attempt
    pure (f value)

end Parser

end Parlance
