import Parlance.Cursor

/-!
# Why a text is rejected

A closed list of causes, each with its wording in `ParseError.message`. All but `custom` say
where in the text they arose, and are made at a cursor.
-/

namespace Parlance

/-- Why a text is rejected. Offsets are in bytes. -/
inductive ParseError where
  /-- Text is left over after something that had to reach the end. -/
  | expectedEnd (offset : Nat) (remaining : String)
  /-- The text offers nothing that could go on here. -/
  | unexpectedEnd (offset : Nat) (expected : String)
  /-- A symbol is not the one that was wanted. The offset is the one after it. -/
  | unexpectedSymbol (offset : Nat) (symbol expected : String)
  /-- A value was read but is not acceptable. -/
  | custom (message : String)
deriving DecidableEq, Repr

namespace ParseError

/-- The error in one line. -/
def message : ParseError → String
  | .expectedEnd offset remaining =>
    "Expected end of input at index " ++ toString offset ++ ", got " ++ remaining
  | .unexpectedEnd offset expected =>
    "Unexpected end of input at index " ++ toString offset ++ ", expected " ++ expected
  | .unexpectedSymbol offset symbol expected =>
    "Unexpected symbol '" ++ symbol ++ "' at index " ++ toString offset ++ ", expected " ++ expected
  | .custom message => message

/-- The offset that the error names. -/
def offset? : ParseError → Option Nat
  | .expectedEnd offset _ => some offset
  | .unexpectedEnd offset _ => some offset
  | .unexpectedSymbol offset _ _ => some offset
  | .custom _ => none

end ParseError

/-! ## Errors at a cursor -/

namespace Cursor

/-- Text is left over at this cursor. -/
def expectedEnd (c : Cursor) : ParseError := .expectedEnd c.offset c.tail

/-- `expected` cannot be found at this cursor. -/
def unexpectedEnd (expected : String) (c : Cursor) : ParseError :=
  .unexpectedEnd c.offset expected

/-- The symbol just read is not what was expected. At the start of a text there is none. -/
def unexpectedSymbol (expected : String) (c : Cursor) : ParseError :=
  .unexpectedSymbol c.offset ((c.lookbehind 1).elim "<unknown>" String.singleton) expected

end Cursor

end Parlance
