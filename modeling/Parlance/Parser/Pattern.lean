import Parlance.Parser
import Parlance.Regex

/-!
# Parsers by regular expression

A pattern matches a regular expression at the cursor. The text ahead is searched for the
expression in parentheses with a mark for the start of the text in front. Parentheses that the
expression leaves unbalanced can undo the effect of that mark, and then a match may start later.
-/

namespace Parlance

/-- A regular expression made ready for matching at a cursor, with its text. -/
structure Pattern where
  source : String
  regex : Regex
deriving Repr

namespace Pattern

/-- The text that is searched for. -/
def anchored (source : String) : String := "^(?:" ++ source ++ ")"

/-- Makes a pattern from the text of a regular expression. -/
def compile (source : String) : Except Regex.SyntaxError Pattern := do
  let regex ← Regex.compile (anchored source)
  return ⟨source, regex⟩

/-- The name of a pattern in error messages. -/
def tag (p : Pattern) : String := "/" ++ p.source ++ "/"

end Pattern

/-- A match and its groups as texts. A group that took no part is empty. -/
structure Captured where
  matched : String
  groups : List String
deriving DecidableEq, Repr

namespace Parser

/-- The error of a pattern that is not found. -/
def noMatch (p : Pattern) (c : Cursor) : ParseError :=
  c.unexpectedSymbol ("pattern " ++ p.tag ++ ", got " ++ c.tail)

/-- Matches a regular expression and reads the text up to the end of the match. The value is the
text of the match. -/
def pattern (p : Pattern) : Parser String where
  tag := p.tag
  skipsBlank := true
  attempt := do
    let c ← Parse.get
    match p.regex.find? c.ahead with
    | none => Parse.fail (noMatch p)
    | some m => do
      Parse.modify (·.advanceBytes (byteLength (c.ahead.take m.stop)))
      pure (String.ofList (slice c.ahead m.start m.stop))

/-- The texts of a match. -/
def captured (text : List Char) (m : Regex.Match) : Captured where
  matched := String.ofList (slice text m.start m.stop)
  groups := m.groups.map fun
    | some (start, stop) => String.ofList (slice text start stop)
    | none => ""

/-- Matches a regular expression and reads as many bytes as the match is long. The value is the
text of the match and of its groups. -/
def capture (p : Pattern) : Parser Captured where
  tag := p.tag
  skipsBlank := true
  attempt := do
    let c ← Parse.get
    match p.regex.find? c.ahead with
    | none => Parse.fail (noMatch p)
    | some m => do
      Parse.modify (·.advanceBytes (byteLength (slice c.ahead m.start m.stop)))
      pure (captured c.ahead m)

end Parser

end Parlance
