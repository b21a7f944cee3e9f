import Parlance.Regex.Expr

/-!
# Putting expressions together

Sequences, choices and repetitions are kept in a plain form while they are put together: a
sequence has no sequence in front and no empty part, neighbouring texts are one text, and a choice
has no choice on its left. A choice between symbols is a set.

If all branches of a choice are sequences that start alike, what they have in common comes first
and the choice after it. This decides which match is preferred where the common part can match in
more than one way: its own preference then comes before that for the first branch.
-/

namespace Parlance.Regex.Expr

/-! ## Sequences -/

/-- The parts of a sequence. -/
def factors : Expr → List Expr
  | .empty => []
  | .cat e f => e :: f.factors
  | e => [e]

/-- Makes one text of neighbouring texts. -/
def joinTexts : List Expr → List Expr
  | [] => []
  | .text s :: es =>
    match joinTexts es with
    | .text t :: fs => .text (s ++ t) :: fs
    | fs => .text s :: fs
  | e :: es => e :: joinTexts es

/-- The sequence with the given parts, none of which is a sequence. -/
def ofFactors : List Expr → Expr
  | [] => .empty
  | [e] => e
  | e :: es => .cat e (ofFactors es)

/-- One expression after another. -/
def sequence (es : List Expr) : Expr := ofFactors (joinTexts (es.flatMap factors))

/-! ## Choices -/

/-- One symbol of a set, or that symbol if there is just one. -/
def ofSet (s : CharSet) : Expr :=
  match s.only? with
  | some c => .text [c]
  | none => .one s

/-- The branches of a choice. -/
def branches : Expr → List Expr
  | .alt e f => e :: f.branches
  | e => [e]

/-- The choice between the given branches, none of which is a choice. -/
def ofBranches : List Expr → Expr
  | [] => .one .empty
  | [e] => e
  | e :: es => .alt e (ofBranches es)

/-- The symbols if all branches are texts of one symbol. -/
def symbols? (es : List Expr) : Option (List Char) :=
  es.mapM fun
    | .text [c] => some c
    | _ => none

/-- The sets if all branches are sets. -/
def sets? (es : List Expr) : Option (List CharSet) :=
  es.mapM fun
    | .one s => some s
    | _ => none

/-- What two lists start with. -/
def commonStart : List Expr → List Expr → List Expr
  | e :: es, f :: fs => if e = f then e :: commonStart es fs else []
  | _, _ => []

/-- The parts that all branches start with, if all are sequences. -/
def sharedStart (es : List Expr) : List Expr :=
  let parts := es.map factors
  if parts.all (2 ≤ ·.length) then
    match parts with
    | [] => []
    | first :: others => others.foldl commonStart first
  else []

/-- A choice between expressions, the first of them preferred. What all have in common at the
start is taken out `depth` times at most. -/
def choiceWithin : (depth : Nat) → List Expr → Expr
  | 0, es => ofBranches (es.flatMap branches)
  | depth + 1, es =>
    match es.flatMap branches with
    | [] => .one .empty
    | [e] => e
    | es =>
      match symbols? es, sets? es with
      | some symbols, _ => ofSet (.ofList symbols)
      | none, some sets => ofSet (sets.foldl CharSet.union .empty)
      | none, none =>
        match sharedStart es with
        | [] => ofBranches es
        | start =>
          let rests := es.map fun e => sequence (e.factors.drop start.length)
          sequence (start ++ [choiceWithin depth rests])

/-- How many parts an expression is made of. -/
def size : Expr → Nat
  | .group _ e => e.size + 1
  | .cat e f => e.size + f.size + 1
  | .alt e f => e.size + f.size + 1
  | .rounds e _ _ _ => e.size + 1
  | _ => 1

/-- A choice between expressions, the first of them preferred. Each time a common start is taken
out, the branches get smaller. -/
def choice (es : List Expr) : Expr := choiceWithin ((es.map size).foldl (· + ·) 1) es

/-! ## Repetitions -/

/-- A repetition without needless rounds: one round more of an expression that takes up nothing
changes nothing, and no rounds at all are nothing, with no groups in them. -/
def iterate (e : Expr) (least : Nat) (most : Option Nat) (greedy : Bool) : Expr :=
  let least := if e.hollow then min least 1 else least
  let most := if e.hollow then some (min (most.getD 1) 1) else most
  if most = some 0 then .empty
  else if least = 1 ∧ most = some 1 then e
  else .rounds e least most greedy

end Parlance.Regex.Expr
