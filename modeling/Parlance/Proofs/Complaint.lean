import Parlance.ParseError
import Parlance.Proofs.Cursor

/-!
# Complaints

All errors of parsers are made at a cursor, in one of four ways. A `Complaint` is such an error
without the place, so that errors made at different cursors can be compared.
-/

namespace Parlance

/-- What an error says, apart from where it arose. -/
inductive Complaint where
  /-- Text is left over. -/
  | leftOver
  /-- Something cannot be found. -/
  | ended (expected : String)
  /-- The symbol just read is not what was expected. -/
  | unexpected (expected : String)
  /-- A value is not acceptable. -/
  | refused (message : String)

namespace Complaint

/-- The error that a complaint makes at a cursor. -/
def errorAt : Complaint → Cursor → ParseError
  | .leftOver, c => c.expectedEnd
  | .ended expected, c => c.unexpectedEnd expected
  | .unexpected expected, c => c.unexpectedSymbol expected
  | .refused message, _ => .custom message

/-- An error depends on the place alone. -/
lemma errorAt_eq_of_place_eq (k : Complaint) {c d : Cursor} (h : c.place = d.place) :
    k.errorAt c = k.errorAt d := by
  have hoffset : c.offset = d.offset := congrArg (fun p : Place => p.position.offset) h
  have htail : c.tail = d.tail := congrArg (fun p : Place => String.ofList p.ahead) h
  have hbehind : c.lookbehind 1 = d.lookbehind 1 := congrArg (fun p : Place => p.behind[0]?) h
  cases k with
  | leftOver => simp only [errorAt, Cursor.expectedEnd, hoffset, htail]
  | ended expected => simp only [errorAt, Cursor.unexpectedEnd, hoffset]
  | unexpected expected => simp only [errorAt, Cursor.unexpectedSymbol, hoffset, hbehind]
  | refused message => rfl

lemma errorAt_commit_past (k : Complaint) (c : Cursor) (t : List Char) :
    k.errorAt (c.commit.past t) = k.errorAt (c.past t) :=
  k.errorAt_eq_of_place_eq rfl

lemma errorAt_enterVerbatim_past (k : Complaint) (c : Cursor) (t : List Char) :
    k.errorAt (c.enterVerbatim.past t) = k.errorAt (c.past t) :=
  k.errorAt_eq_of_place_eq rfl

end Complaint

end Parlance
