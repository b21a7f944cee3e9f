import Parlance.Grammar.Rules
import Parlance.Proofs.Complaint
import Parlance.Proofs.Outcome
import Mathlib.Data.List.Basic
import Mathlib.Data.List.Induction

/-!
# Combinators in other forms

Some combinators are restated so that less of the cursor is looked at and no parser stands among
the values that are passed on:

* `parse_eq_bind` has the skipping of blanks as a step of its own;
* `repeated_succ` asks only whether text was read, and not for offsets;
* `searching_eq` makes the error of a pattern from the text ahead;
* `settle_pendingAt` names pending branches by their places;
* `Rules.run_eq_bind` looks at the cursor for the depth of references before it runs a rule.
-/

namespace Parlance

variable {α β : Type}

namespace Parse

/-- The value of `p`, and whether any text was read for it. -/
def measured (p : Parse α) : Parse (α × Bool) := do
  let before ← get
  let a ← p
  let after ← get
  pure (a, decide (after.offset ≠ before.offset))

lemma get_bind_const (p : Parse α) : (get >>= fun _ => p) = p := by
  funext c
  rw [get_bind_apply]

lemma tentatively_reject (message : String) :
    (reject message : Parse α).tentatively = pure none := rfl

end Parse

namespace Parser

/-- Parsing is attempting after the blanks have been skipped. -/
lemma parse_eq_bind (p : Parser α) :
    p.parse = (Parse.modify p.approach >>= fun _ => p.attempt) := by
  funext c
  rw [Parse.bind_apply]
  unfold Parser.parse Parse.modify
  dsimp only
  rcases p.attempt (p.approach c) with fault | ⟨r, c', n⟩
  · rfl
  · simp

/-- A repetition goes on after a value for which text was read. -/
lemma repeated_succ (p : Parser α) (limit : ℕ) :
    repeated p (limit + 1) = (do
      let (found, moved) ← p.parse.tentatively.measured
      match found with
      | none => pure []
      | some value =>
        if moved then do
          let values ← repeated p limit
          pure (value :: values)
        else pure [value]) := by
  rw [repeated, Parse.measured]
  simp only [bind_assoc, pure_bind]
  congr 1
  funext before
  congr 1
  funext found
  cases found with
  | none => exact (Parse.get_bind_const _).symm
  | some value =>
    dsimp only
    congr 1
    funext after
    by_cases hstill : after.offset = before.offset <;> simp [hstill]

/-- Looks for a match in the text ahead, and goes on as `f` says. -/
def searching (p : Pattern) (f : List Char → Regex.Match → Parse α) : Parse α := do
  let c ← Parse.get
  match p.regex.find? c.ahead with
  | none => Parse.fail (noMatch p)
  | some m => f c.ahead m

/-- The error of a pattern that is not found is made from the text ahead. -/
lemma searching_eq (p : Pattern) (f : List Char → Regex.Match → Parse α) :
    searching p f = (do
      let c ← Parse.get
      match p.regex.find? c.ahead with
      | none =>
        Parse.fail (Complaint.unexpected ("pattern " ++ p.tag ++ ", got " ++ c.tail)).errorAt
      | some m => f c.ahead m) := by
  funext c
  rw [searching, Parse.get_bind_apply, Parse.get_bind_apply]
  cases p.regex.find? c.ahead <;> rfl

lemma attempt_pattern (p : Pattern) :
    (pattern p).attempt = searching p (fun text m => do
      Parse.modify (·.advanceBytes (byteLength (text.take m.stop)))
      pure (String.ofList (slice text m.start m.stop))) := rfl

lemma attempt_capture (p : Pattern) :
    (capture p).attempt = searching p (fun text m => do
      Parse.modify (·.advanceBytes (byteLength (slice text m.start m.stop)))
      pure (captured text m)) := rfl

/-! ### Branches by place -/

/-- Pending branches, given by their places among all branches. -/
def pendingAt (branches : List (Parser α)) (places : List ℕ) : List (Pending α) :=
  places.filterMap fun place => branches[place]?.map (·, place)

/-- `settleOne` with places for the pending branches. -/
def settlePlace (branches : List (Parser α)) : List ℕ → Parse (Option ((ℕ × α) × List ℕ))
  | [] => pure none
  | place :: places => do
    match ← (parseBranch branches place).tentatively with
    | some value => pure (some ((place, value), places))
    | none =>
      match ← settlePlace branches places with
      | some (settled, others) => pure (some (settled, place :: others))
      | none => pure none

/-- `settle` with places for the pending branches. -/
def settlePlaces (branches : List (Parser α)) : ℕ → List ℕ → Parse (List (ℕ × α))
  | 0, _ => pure []
  | count + 1, places => do
    match ← settlePlace branches places with
    | none => Parse.fail (Cursor.unexpectedSymbol "one of the remaining patterns")
    | some (settled, others) => do
      let later ← settlePlaces branches count others
      pure (settled :: later)

variable {branches : List (Parser α)}

lemma settleOne_pendingAt (places : List ℕ) :
    settleOne (pendingAt branches places) = (do
      let found ← settlePlace branches places
      pure (found.map fun (settled, others) => (settled, pendingAt branches others))) := by
  induction places with
  | nil => rfl
  | cons place places ih =>
    rw [settlePlace, parseBranch]
    cases hplace : branches[place]? with
    | none =>
      -- a place without a branch is passed over
      have hskip : ∀ others,
          pendingAt branches (place :: others) = pendingAt branches others := by
        intro others
        simp [pendingAt, hplace]
      rw [hskip, ih]
      simp only [Parse.tentatively_reject, pure_bind, bind_assoc]
      congr 1
      funext found
      cases found <;> simp [hskip]
    | some p =>
      have hcons : ∀ others,
          pendingAt branches (place :: others) = (p, place) :: pendingAt branches others := by
        intro others
        simp [pendingAt, hplace]
      rw [hcons, settleOne, bind_assoc]
      congr 1
      funext value
      cases value with
      | some value => simp
      | none =>
        simp only [ih, bind_assoc, pure_bind]
        congr 1
        funext found
        cases found <;> simp [hcons]

lemma settle_pendingAt (count : ℕ) (places : List ℕ) :
    settle count (pendingAt branches places) = settlePlaces branches count places := by
  induction count generalizing places with
  | zero => rfl
  | succ count ih =>
    rw [settle, settlePlaces, settleOne_pendingAt, bind_assoc]
    congr 1
    funext found
    cases found with
    | none => rfl
    | some found =>
      simp only [pure_bind, Option.map_some, ih]

lemma zipIdx_eq_pendingAt (branches : List (Parser α)) :
    branches.zipIdx = pendingAt branches (List.range branches.length) := by
  induction branches using List.reverseRecOn with
  | nil => rfl
  | append_singleton branches p ih =>
    have hleft : pendingAt (branches ++ [p]) (List.range branches.length)
        = pendingAt branches (List.range branches.length) := by
      refine List.filterMap_congr fun place hplace => ?_
      rw [List.getElem?_append_left (List.mem_range.mp hplace)]
    rw [List.length_append, List.length_singleton, List.range_succ, pendingAt,
      List.filterMap_append, ← pendingAt, hleft, List.zipIdx_append, ih]
    simp

end Parser

lemma Rules.run_eq_bind (rules : Rules) (name : String) :
    rules.run name = Parse.get >>= fun c => rules.runWithin (rules.depthFor c) name := by
  funext c
  rw [Parse.get_bind_apply]
  rfl

end Parlance
