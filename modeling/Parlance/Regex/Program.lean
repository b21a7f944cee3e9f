import Parlance.Regex.Expr

/-!
# Programs that match

A regular expression is turned into a program of simple instructions, each of which names the
instructions that may follow. Where there are two, the first is preferred.

A round of a repetition that takes up nothing could be gone through without end. So a repetition
of something that need not take up a symbol is a choice between no rounds and one round or more:
coming back to the end of a round without having moved leads out of the repetition.
-/

namespace Parlance.Regex

/-- An instruction. Instructions that may follow are named by their number. -/
inductive Instr where
  /-- Takes up one symbol of the set. -/
  | one (s : CharSet) (next : Nat)
  /-- Goes on with either, the first preferred. -/
  | fork (first second : Nat)
  /-- Notes the offset under the number of a slot. -/
  | save (slot next : Nat)
  /-- Goes on if the condition holds. -/
  | look (l : Look) (next : Nat)
  /-- The whole expression has matched. -/
  | done
deriving Repr

/-- The instructions by number. -/
abbrev Code : Type := Array Instr

/-- The instruction with a given number. -/
def Code.fetch (code : Code) (index : Nat) : Option Instr := code[index]?

/-- Adds an instruction and gives its number. -/
def Code.emit (code : Code) (i : Instr) : Nat × Code := (code.size, code.push i)

/-- Adds something to the code that goes on with a given instruction, and gives the number of the
instruction it starts with. -/
abbrev Emit : Type := (next : Nat) → Code → Nat × Code

/-- A choice between two instructions, of which the first is preferred if `greedy` is set. -/
def choose (greedy : Bool) (first second : Nat) : Instr :=
  if greedy then .fork first second else .fork second first

/-- The same thing `count` times in a row, the last of them first. -/
def emitCopies (one : Emit) : (count : Nat) → Emit
  | 0, next, code => (next, code)
  | count + 1, next, code =>
    let (start, code) := one next code
    emitCopies one count start code

/-- The symbols of a text, whose last symbol comes first in the list. -/
def emitText : (reversed : List Char) → Emit
  | [], next, code => (next, code)
  | c :: reversed, next, code =>
    let (start, code) := code.emit (.one (.single c) next)
    emitText reversed start code

/-- One round or more. Gives the number of the choice at the end of a round as well. -/
def emitLoop (one : Emit) (greedy : Bool) (next : Nat) (code : Code) : (Nat × Nat) × Code :=
  let (again, code) := code.emit .done
  let (start, code) := one again code
  ((start, again), code.setIfInBounds again (choose greedy start next))

/-- At most `count` rounds, each only after the one before it, the last of them first. `more` is
what comes after these rounds, and `next` what comes after the whole. -/
def emitUpTo (one : Emit) (greedy : Bool) (next : Nat) : (count : Nat) → (more : Nat) → Code →
    Nat × Code
  | 0, more, code => (more, code)
  | count + 1, more, code =>
    let (start, code) := one more code
    let (more, code) := code.emit (choose greedy start next)
    emitUpTo one greedy next count more code

/-- Rounds of a repetition. -/
def emitRounds (one : Emit) (takesUp : Bool) (least : Nat) (most : Option Nat) (greedy : Bool)
    (next : Nat) (code : Code) : Nat × Code :=
  match least, most with
  | least, some most =>
    let (start, code) := emitUpTo one greedy next (most - least) next code
    emitCopies one least start code
  | 0, none =>
    let ((start, again), code) := emitLoop one greedy next code
    if takesUp then (again, code) else code.emit (choose greedy start next)
  | least + 1, none =>
    let ((start, _), code) := emitLoop one greedy next code
    emitCopies one least start code

namespace Expr

/-- Adds an expression to the code. -/
def emit : Expr → Emit
  | .empty, next, code => (next, code)
  | .text symbols, next, code => emitText symbols.reverse next code
  | .one s, next, code => code.emit (.one s next)
  | .look l, next, code => code.emit (.look l next)
  | .group index e, next, code =>
    let (stop, code) := code.emit (.save (2 * index + 1) next)
    let (start, code) := e.emit stop code
    code.emit (.save (2 * index) start)
  | .cat e f, next, code =>
    let (middle, code) := f.emit next code
    e.emit middle code
  | .alt e f, next, code =>
    let (second, code) := f.emit next code
    let (first, code) := e.emit next code
    code.emit (.fork first second)
  | .rounds e least most greedy, next, code =>
    emitRounds e.emit e.takesUp least most greedy next code

end Expr

/-- A program: its instructions and the number of the first. -/
structure Program where
  code : Code
  start : Nat
deriving Repr

/-- The program of an expression. -/
def Program.ofExpr (e : Expr) : Program :=
  let (done, code) := Code.emit #[] .done
  let (start, code) := e.emit done code
  ⟨code, start⟩

end Parlance.Regex
