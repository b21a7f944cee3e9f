import Parlance.Regex.CharSet

/-!
# Regular expressions

The expressions themselves, free of how they are written. Where several ways to match exist, the
one that an expression prefers comes first: the left alternative, and one more round of a greedy
repetition.
-/

namespace Parlance.Regex

/-! ## Conditions -/

/-- What a condition on words asks of the symbols next to a place. -/
inductive WordEdge where
  /-- A word starts or ends. -/
  | either
  /-- No word starts or ends. -/
  | neither
  | start
  | stop
  /-- No word symbol in front. -/
  | halfStart
  /-- No word symbol ahead. -/
  | halfStop
deriving DecidableEq, Repr

/-- A condition on the place in the text, which takes up no symbol. -/
inductive Look where
  | textStart
  | textEnd
  | lineStart
  | lineEnd
  /-- The start of a line where carriage returns end lines, too, except in front of a newline. -/
  | rowStart
  /-- The end of such a line. -/
  | rowEnd
  /-- An edge of a word, made of word symbols of all scripts or of the basic table alone. -/
  | word (allScripts : Bool) (edge : WordEdge)
deriving DecidableEq, Repr

/-- The digits, letters and the low line of the basic table. -/
def CharSet.basicWord : CharSet := .ofRanges [(0x30, 0x39), (0x41, 0x5A), (0x5F, 0x5F), (0x61, 0x7A)]

/-- Whether there is a symbol and it is a word symbol. -/
def isWordAt (allScripts : Bool) (c : Option Char) : Bool :=
  c.any fun c => if allScripts then Unicode.isWord c else CharSet.basicWord.contains c

/-- Whether the condition holds, given whether a word symbol is in front and whether one is
ahead. -/
def WordEdge.holds (behind ahead : Bool) : WordEdge → Bool
  | .either => behind != ahead
  | .neither => behind == ahead
  | .start => !behind && ahead
  | .stop => behind && !ahead
  | .halfStart => !behind
  | .halfStop => !ahead

/-- Whether the condition holds between the symbol in front and the one ahead. -/
def Look.holds (behind ahead : Option Char) : Look → Bool
  | .textStart => behind.isNone
  | .textEnd => ahead.isNone
  | .lineStart => behind.all (· = '\n')
  | .lineEnd => ahead.all (· = '\n')
  | .rowStart => behind.all (· = '\n') || (behind = some '\r' && ahead ≠ some '\n')
  | .rowEnd => ahead.all (· = '\r') || (ahead = some '\n' && behind ≠ some '\r')
  | .word allScripts edge => edge.holds (isWordAt allScripts behind) (isWordAt allScripts ahead)

/-! ## Expressions -/

/-- A regular expression. -/
inductive Expr where
  /-- Matches without taking up anything. -/
  | empty
  /-- Exactly these symbols. -/
  | text (symbols : List Char)
  /-- One symbol of the set. -/
  | one (s : CharSet)
  | look (l : Look)
  /-- A group that remembers what it matched, with its number. -/
  | group (index : Nat) (e : Expr)
  | cat (e f : Expr)
  | alt (e f : Expr)
  /-- From `least` to `most` rounds, without a bound if there is no `most`. -/
  | rounds (e : Expr) (least : Nat) (most : Option Nat) (greedy : Bool)
deriving DecidableEq, Repr

namespace Expr

/-- The least number of symbols that a match takes up, as far as the form tells. There is none if
the expression uses a set without symbols. -/
def minLength : Expr → Option Nat
  | .empty => some 0
  | .text symbols => some symbols.length
  | .one s => if s.isEmpty then none else some 1
  | .look _ => some 0
  | .group _ e => e.minLength
  | .cat e f => do return (← e.minLength) + (← f.minLength)
  | .alt e f => do return min (← e.minLength) (← f.minLength)
  | .rounds e least _ _ => do return least * (← e.minLength)

/-- The greatest number of symbols that a match takes up, as far as the form tells. There is none
if it has no bound, or if the expression uses a set without symbols. -/
def maxLength : Expr → Option Nat
  | .empty => some 0
  | .text symbols => some symbols.length
  | .one s => if s.isEmpty then none else some 1
  | .look _ => some 0
  | .group _ e => e.maxLength
  | .cat e f => do return (← e.maxLength) + (← f.maxLength)
  | .alt e f => do return max (← e.maxLength) (← f.maxLength)
  | .rounds e _ most _ => do return (← most) * (← e.maxLength)

/-- Whether every match is sure to take up a symbol. -/
def takesUp (e : Expr) : Bool := e.minLength.any (0 < ·)

/-- Whether no match takes up a symbol. -/
def hollow (e : Expr) : Bool := e.maxLength = some 0

/-- Whether every match starts where the text does. -/
def fromTextStart : Expr → Bool
  | .look l => l = .textStart
  | .group _ e => e.fromTextStart
  | .cat e f => e.fromTextStart || (e.hollow && f.fromTextStart)
  | .alt e f => e.fromTextStart && f.fromTextStart
  | .rounds e least _ _ => 0 < least && e.fromTextStart
  | _ => false

/-- Whether every match ends where the text does. -/
def toTextEnd : Expr → Bool
  | .look l => l = .textEnd
  | .group _ e => e.toTextEnd
  | .cat e f => f.toTextEnd || (f.hollow && e.toTextEnd)
  | .alt e f => e.toTextEnd && f.toTextEnd
  | .rounds e least _ _ => 0 < least && e.toTextEnd
  | _ => false

/-- The highest number of a group, or zero if there is none. -/
def lastGroup : Expr → Nat
  | .group index e => max index e.lastGroup
  | .cat e f => max e.lastGroup f.lastGroup
  | .alt e f => max e.lastGroup f.lastGroup
  | .rounds e _ _ _ => e.lastGroup
  | _ => 0

end Expr

end Parlance.Regex
