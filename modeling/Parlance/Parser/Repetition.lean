import Parlance.Parser

/-!
# Repetitions

A repetition takes as many values as it can get. A value that takes up no text could be had
without end, so it is the last one.
-/

namespace Parlance.Parser

variable {α : Type}

/-- Values of `p` until it fails or succeeds without reading anything. No more than `limit` of
them; a value that is followed by another has taken up at least one symbol, so one more than the
symbols ahead is never too few. -/
def repeated (p : Parser α) : Nat → Parse (List α)
  | 0 => pure []
  | limit + 1 => do
    let before ← Parse.get
    match ← p.parse.tentatively with
    | none => pure []
    | some value =>
      let after ← Parse.get
      if after.offset = before.offset then pure [value]
      else do
        let values ← repeated p limit
        pure (value :: values)

/-- As many values of `p` as there are ahead. -/
def repeatAhead (p : Parser α) : Parse (List α) := do
  let c ← Parse.get
  repeated p (c.ahead.length + 1)

/-- Any number of values, which may be none. -/
def many (p : Parser α) : Parser (List α) where
  tag := "many(" ++ p.tag ++ ")"
  skipsBlank := false
  attempt := repeatAhead p

/-- One value and as many more as there are. -/
def sequence (p : Parser α) : Parser (List α) where
  tag := "sequence(" ++ p.tag ++ ")"
  skipsBlank := false
  attempt := do
    let first ← p.parse
    let more ← repeatAhead p
    pure (first :: more)

end Parlance.Parser
