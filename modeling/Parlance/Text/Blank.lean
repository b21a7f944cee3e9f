/-!
# Blank symbols

The symbols that separate tokens. Everything else is solid, whatever Unicode calls it: a
no-break space or a line separator is part of a word here.
-/

namespace Parlance

/-- Space, tab, carriage return and newline. -/
def isBlank (c : Char) : Bool :=
  c = ' ' || c = '\t' || c = '\r' || c = '\n'

/-- Whether `text` has a first symbol and that symbol is not blank. -/
def startsSolid : List Char → Bool
  | [] => false
  | c :: _ => !isBlank c

end Parlance
