import Parlance.Regex.Reader
import Parlance.Regex.Room
import Parlance.Regex.Search

/-!
# Regular expressions, ready to use

A regular expression is read from its text once and can then be searched for in any number of
texts. What is found is given in symbols of the text searched.
-/

namespace Parlance

/-- A regular expression that has been read. -/
structure Regex where
  expr : Regex.Expr
  program : Regex.Program
deriving Repr

namespace Regex

/-- Whether the automata of the expression are small enough. -/
def fits (e : Expr) : Bool :=
  e.room .forward ≤ maxRoom && e.room .backward ≤ maxRoom

/-- Reads a regular expression from its text. -/
def compile (source : String) : Except SyntaxError Regex := do
  let expr ← Expr.read source.toList
  if fits expr then return ⟨expr, .ofExpr expr⟩ else .error .tooLarge

/-- The leftmost match in `text`. There is only one place to try if a match has to start where the
text does. -/
def find? (r : Regex) (text : List Char) : Option Match :=
  if r.expr.fromTextStart then matchAt r.program r.expr.lastGroup 0 none text
  else search r.program r.expr.lastGroup 0 none text

end Regex

/-- The symbols of `text` from the place `start` up to the place `stop`. -/
def slice (text : List Char) (start stop : Nat) : List Char := (text.take stop).drop start

end Parlance
