import Parlance.Grammar.Rules

/-!
# Sessions

All that can be done to a cursor from outside, as a list of operations to go through one by one.
Each operation has an answer and leaves the cursor behind for the next.
-/

namespace Parlance

/-- Something that can be done to a cursor. -/
inductive Operation where
  | advance
  | peek
  | lookbehind (n : Nat)
  | consume (bytes : Nat)
  | commit
  | finish
  | rollback
  | skipBlank
  | enterVerbatim
  | exitVerbatim
  | tail
  | source
  | parse (g : Grammar)
  /-- Like `parse`, without skipping blanks first. -/
  | attempt (g : Grammar)
  /-- Like `parse`, taken back if it fails. -/
  | speculate (g : Grammar)
  /-- Makes an error and changes nothing, like the next two. -/
  | expectedEnd
  | unexpectedEnd (expected : String)
  | unexpectedSymbol (expected : String)
deriving Repr

/-- The answer of an operation. -/
inductive Answer where
  | nothing
  | symbol (c : Option Char)
  | text (text : String)
  | result (r : Except ParseError Value)
  | error (e : ParseError)
deriving Repr

namespace Operation

/-- Runs a parse for its result. -/
def ofParse (p : Parse Value) (c : Cursor) : Except Fault (Answer × Cursor) :=
  (p c).map fun reply => (.result reply.result, reply.cursor)

/-- Performs an operation. -/
def perform (rules : Rules) : Operation → Cursor → Except Fault (Answer × Cursor)
  | .advance, c => .ok (.symbol c.advance.1, c.advance.2)
  | .peek, c => .ok (.symbol c.peek, c)
  | .lookbehind n, c => .ok (.symbol (c.lookbehind n), c)
  | .consume bytes, c => (c.consume bytes).map (.nothing, ·)
  | .commit, c => .ok (.nothing, c.commit)
  | .finish, c => c.finish.map (.nothing, ·)
  | .rollback, c => c.rollback.map (.nothing, ·)
  | .skipBlank, c => .ok (.nothing, c.skipBlank)
  | .enterVerbatim, c => .ok (.nothing, c.enterVerbatim)
  | .exitVerbatim, c => .ok (.nothing, c.exitVerbatim)
  | .tail, c => .ok (.text c.tail, c)
  | .source, c => .ok (.text c.source, c)
  | .parse g, c => ofParse (g.parser rules).parse c
  | .attempt g, c => ofParse (g.parser rules).attempt c
  | .speculate g, c => ofParse (g.parser rules).parse.speculate c
  | .expectedEnd, c => .ok (.error c.expectedEnd, c)
  | .unexpectedEnd expected, c => .ok (.error (c.unexpectedEnd expected), c)
  | .unexpectedSymbol expected, c => .ok (.error (c.unexpectedSymbol expected), c)

/-- Performs operations in order: each answer with the cursor after it, up to the first fault. -/
def performAll (rules : Rules) (c : Cursor) :
    List Operation → List (Answer × Cursor) × Option Fault
  | [] => ([], none)
  | operation :: operations =>
    match operation.perform rules c with
    | .error fault => ([], some fault)
    | .ok (answer, c) =>
      let (answers, fault) := performAll rules c operations
      ((answer, c) :: answers, fault)

end Operation

end Parlance
