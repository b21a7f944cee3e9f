import Parlance.Position
import Parlance.Text.Blank

/-!
# Cursors

A `Cursor` reads a text symbol by symbol. It remembers a stack of saved places, so that a reader
can try something and take it back, and how many verbatim tokens it is inside, because blanks are
not skipped there.

The text is held as a `Place`: the symbols already read, nearest first, and the symbols still to
come. A saved place is therefore all that is needed to go back to it.

Three uses of a cursor have no meaning and are a `Fault`: dropping or restoring a saved place when
there is none, and asking for an offset that no machine word holds.
-/

namespace Parlance

/-- What can go wrong in the use of a cursor or of a grammar, as opposed to in the text read. -/
inductive Fault where
  /-- A saved place was to be dropped, but none is left. -/
  | unmatchedFinish
  /-- A saved place was to be restored, but none is left. -/
  | unmatchedRollback
  /-- The offset asked for does not fit a machine word. -/
  | offsetOverflow
  /-- Rules refer to one another without end. -/
  | endlessRecursion
  /-- A rule is referred to that does not exist. -/
  | unknownRule (name : String)
deriving DecidableEq, Repr

/-- The fault in words. -/
def Fault.message : Fault → String
  | .unmatchedFinish => "finish without a matching commit"
  | .unmatchedRollback => "rollback without a matching commit"
  | .offsetOverflow => "attempt to add with overflow"
  | .endlessRecursion => "rules refer to one another without end"
  | .unknownRule name => "no rule named " ++ name

/-! ## Places -/

/-- A place in a text together with the text on both sides of it. -/
structure Place where
  /-- The symbols already read, the last one first. -/
  behind : List Char
  /-- The symbols still to be read. -/
  ahead : List Char
  position : Position
deriving DecidableEq, Repr

namespace Place

/-- The place before the first symbol of `text`. -/
def start (text : List Char) : Place := ⟨[], text, .start⟩

/-- The whole text, whatever the place in it. -/
def source (p : Place) : List Char := p.behind.reverse ++ p.ahead

/-- Reads on from a place, given in its three parts, as long as `keep` approves of the position
reached and of the symbol there. -/
def walk (keep : Position → Char → Bool) (behind : List Char) (position : Position) :
    List Char → Place
  | [] => ⟨behind, [], position⟩
  | c :: ahead =>
    if keep position c then walk keep (c :: behind) (position.step c) ahead
    else ⟨behind, c :: ahead, position⟩

/-- Reads on as long as `keep` approves. -/
def advanceWhile (keep : Position → Char → Bool) (p : Place) : Place :=
  walk keep p.behind p.position p.ahead

@[simp] theorem source_walk (keep : Position → Char → Bool) (behind : List Char)
    (position : Position) (ahead : List Char) :
    (walk keep behind position ahead).source = behind.reverse ++ ahead := by
  induction ahead generalizing behind position with
  | nil => rfl
  | cons c ahead ih =>
    unfold walk
    split
    · rw [ih]
      simp
    · rfl

/-- Reading on does not change the text. -/
@[simp] theorem source_advanceWhile (keep : Position → Char → Bool) (p : Place) :
    (p.advanceWhile keep).source = p.source :=
  source_walk keep p.behind p.position p.ahead

/-- Reads on to the first place whose offset is not below `target`, or to the end. -/
def advanceTo (target : Nat) (p : Place) : Place :=
  p.advanceWhile fun position _ => position.offset < target

/-- Reads over the blanks ahead. -/
def skipBlank (p : Place) : Place :=
  p.advanceWhile fun _ c => isBlank c

end Place

/-! ## Cursors -/

/-- A place in a text, the places saved to come back to, most recent first, and the number of
verbatim tokens around. -/
structure Cursor where
  place : Place
  saved : List Place
  verbatim : Nat
deriving DecidableEq, Repr

namespace Cursor

/-- A fresh cursor before the first symbol of `text`. -/
def ofSymbols (text : List Char) : Cursor := ⟨.start text, [], 0⟩

/-- A fresh cursor before the first symbol of `text`. -/
def ofString (text : String) : Cursor := ofSymbols text.toList

/-! ### What a cursor shows -/

def position (c : Cursor) : Position := c.place.position

def offset (c : Cursor) : Nat := c.place.position.offset

/-- How many saved places have been neither dropped nor restored. -/
def depth (c : Cursor) : Nat := c.saved.length

def isVerbatim (c : Cursor) : Bool := 0 < c.verbatim

def isAtEnd (c : Cursor) : Bool := c.place.ahead.isEmpty

/-- The symbols still to be read. -/
def ahead (c : Cursor) : List Char := c.place.ahead

/-- The text still to be read. -/
def tail (c : Cursor) : String := String.ofList c.ahead

/-- The whole text. -/
def source (c : Cursor) : String := String.ofList c.place.source

/-- The next symbol, which stays unread. -/
def peek (c : Cursor) : Option Char := c.ahead.head?

/-- The `n`-th symbol behind the cursor, counted from one. -/
def lookbehind (c : Cursor) : Nat → Option Char
  | 0 => none
  | n + 1 => c.place.behind[n]?

/-! ### Reading -/

/-- Reads one symbol, unless the text is at its end. -/
def advance (c : Cursor) : Option Char × Cursor :=
  match c.place.ahead with
  | [] => (none, c)
  | x :: rest =>
    (some x, { c with place := ⟨x :: c.place.behind, rest, c.place.position.step x⟩ })

/-- Reads whole symbols until `n` bytes or more have been read, or the text ends. -/
def advanceBytes (c : Cursor) (n : Nat) : Cursor :=
  { c with place := c.place.advanceTo (c.offset + n) }

/-- Offsets stay below this bound, the first number that does not fit a machine word. -/
def offsetBound : Nat := 0x10000000000000000

/-- Like `advanceBytes`, for a number of bytes that comes from outside and may be too large. -/
def consume (c : Cursor) (n : Nat) : Except Fault Cursor :=
  if c.offset + n < offsetBound then .ok (c.advanceBytes n) else .error .offsetOverflow

/-- Reads over the blanks ahead, except inside a verbatim token. -/
def skipBlank (c : Cursor) : Cursor :=
  if c.isVerbatim then c else { c with place := c.place.skipBlank }

/-! ### Saving and going back -/

/-- Saves the current place. -/
def commit (c : Cursor) : Cursor := { c with saved := c.place :: c.saved }

/-- Drops the place saved last and stays where it is. -/
def finish (c : Cursor) : Except Fault Cursor :=
  match c.saved with
  | [] => .error .unmatchedFinish
  | _ :: saved => .ok { c with saved := saved }

/-- Goes back to the place saved last, which is then no longer saved. -/
def rollback (c : Cursor) : Except Fault Cursor :=
  match c.saved with
  | [] => .error .unmatchedRollback
  | place :: saved => .ok { c with place := place, saved := saved }

/-! ### Verbatim tokens -/

/-- Enters a verbatim token. -/
def enterVerbatim (c : Cursor) : Cursor := { c with verbatim := c.verbatim + 1 }

/-- Leaves the innermost verbatim token, if there is one. -/
def exitVerbatim (c : Cursor) : Cursor := { c with verbatim := c.verbatim - 1 }

end Cursor

end Parlance
