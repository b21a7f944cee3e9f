import Parlance.Parser

/-!
# Choices

A list of branches in order of preference: the first branch that succeeds is taken, and a branch
that fails leaves no trace. An optional parser is a choice between a value and none.
-/

namespace Parlance.Parser

variable {α : Type}

/-! ## Branches -/

/-- The tags of all branches. -/
def describe (branches : List (Parser α)) : String :=
  " | ".intercalate (branches.map tag)

/-- The tag of the branch at `index`. -/
def branchTag (branches : List (Parser α)) (index : Nat) : String :=
  match branches[index]? with
  | some p => p.tag
  | none => "?"

/-- Parses with the branch at `index`. -/
def parseBranch (branches : List (Parser α)) (index : Nat) : Parse α :=
  match branches[index]? with
  | some p => p.parse
  | none => Parse.reject ("no branch at index " ++ toString index)

/-! ## Ordered choice -/

/-- The value of the first parser that succeeds, if one does. -/
def firstOf : List (Parser α) → Parse (Option α)
  | [] => pure none
  | p :: parsers => do
    match ← p.parse.tentatively with
    | some value => pure (some value)
    | none => firstOf parsers

/-- The tag of an ordered choice. -/
def pickTag (branches : List (Parser α)) : String := "pick(" ++ describe branches ++ ")"

/-- The value of the first branch that succeeds. Later branches are not tried, even where they
would read more. -/
def pick (branches : List (Parser α)) : Parser α where
  tag := pickTag branches
  skipsBlank := false
  attempt := do
    match ← firstOf branches with
    | some value => pure value
    | none => Parse.fail (Cursor.unexpectedEnd (pickTag branches))

/-- What `p` reads, or nothing. -/
def optional (p : Parser α) : Parser (Option α) := ⟨"optional", false, p.parse.tentatively⟩

end Parlance.Parser
