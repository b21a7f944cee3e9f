import Parlance.Parser.Choice

/-!
# Branches in any order

`unordered` reads every branch exactly once, in whatever order the text presents them. It works
in passes over the branches still pending, in order of declaration: the first one that succeeds is
settled and the next pass starts from the top. A pass in which none succeeds is an error. So there
are at most as many passes as branches, and each pass tries a pending branch at most once.

A branch that succeeds without reading anything is settled like any other.
-/

namespace Parlance.Parser

variable {α : Type}

/-- A branch together with its place in the order of declaration. -/
abbrev Pending (α : Type) : Type := Parser α × Nat

/-- The value of the first pending branch that succeeds, with its place and the branches that are
pending after that. -/
def settleOne : List (Pending α) → Parse (Option ((Nat × α) × List (Pending α)))
  | [] => pure none
  | (p, place) :: pending => do
    match ← p.parse.tentatively with
    | some value => pure (some ((place, value), pending))
    | none =>
      match ← settleOne pending with
      | some (settled, others) => pure (some (settled, (p, place) :: others))
      | none => pure none

/-- Settles `count` pending branches, one pass for each: their places and values in the order in
which they were read. -/
def settle : Nat → List (Pending α) → Parse (List (Nat × α))
  | 0, _ => pure []
  | count + 1, pending => do
    match ← settleOne pending with
    | none => Parse.fail (Cursor.unexpectedSymbol "one of the remaining patterns")
    | some (settled, others) => do
      let later ← settle count others
      pure (settled :: later)

/-- The values settled, in the order of declaration of `count` branches. -/
def inPlace (count : Nat) (settled : List (Nat × α)) : List α :=
  (List.range count).filterMap fun place => List.lookup place settled

/-- Every branch once, in any order. The values come in the order of declaration. -/
def unordered (branches : List (Parser α)) : Parser (List α) where
  tag := "unordered(" ++ describe branches ++ ")"
  skipsBlank := false
  attempt := do
    let settled ← settle branches.length branches.zipIdx
    pure (inPlace branches.length settled)

end Parlance.Parser
