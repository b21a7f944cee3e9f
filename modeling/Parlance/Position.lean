import Parlance.Text.Bytes

/-!
# Positions and spans

A `Position` is a place in a text, told in three ways at once: the byte offset, and the row and
column that a reader would name. A `Span` is a stretch between two byte offsets.
-/

namespace Parlance

/-- A place in a text. Rows and columns count from one, and columns count symbols. -/
structure Position where
  row : Nat
  column : Nat
  offset : Nat
deriving DecidableEq, Repr

namespace Position

/-- The place before the first symbol of any text. -/
def start : Position := ⟨1, 1, 0⟩

instance : Inhabited Position := ⟨start⟩

/-- The place just after the symbol `c`: a newline opens the next row. -/
def step (p : Position) (c : Char) : Position :=
  if c = '\n' then ⟨p.row + 1, 1, p.offset + c.utf8Size⟩
  else ⟨p.row, p.column + 1, p.offset + c.utf8Size⟩

@[simp] theorem offset_step (p : Position) (c : Char) :
    (p.step c).offset = p.offset + c.utf8Size := by
  unfold step; split <;> rfl

end Position

/-- The bytes from `start` up to `stop`, which is not part of it. -/
structure Span where
  start : Nat
  stop : Nat
deriving DecidableEq, Repr

namespace Span

/-- The number of bytes covered. A span that ends before it starts covers none. -/
def length (s : Span) : Nat := s.stop - s.start

def isEmpty (s : Span) : Bool := s.length = 0

/-- The part of `source` that the span covers, or nothing if the span does not run from one
symbol boundary of `source` up to another. -/
def slice (s : Span) (source : String) : String :=
  if s.start ≤ s.stop then
    match splitBytes? s.start source.toList with
    | none => ""
    | some (_, back) =>
      match splitBytes? s.length back with
      | none => ""
      | some (covered, _) => String.ofList covered
  else ""

end Span

end Parlance
