import Parlance.ParseError
import Parlance.Proofs.Cursor
import Mathlib.Data.List.Count
import Mathlib.Data.List.Induction

/-!
# Places in a text

A place remembers its row, column and offset from step to step. `Position.after` tells them from the
text that has been read, and `Place.between` is the place where a text is cut in two. Reading on
from such a place leads to another one in the same text (`Place.past_between`). What an error says
of the text is told from the same two parts.
-/

namespace Parlance

lemma byteLength_eq_zero_iff {text : List Char} : byteLength text = 0 ↔ text = [] := by
  constructor
  · intro hzero
    have hlength := length_le_byteLength text
    rw [hzero] at hlength
    exact List.eq_nil_of_length_eq_zero (Nat.le_zero.mp hlength)
  · rintro rfl
    rfl

/-- The position behind the symbols `front`, told from them: the row counts the newlines, the column
the symbols since the last one. -/
def Position.after (front : List Char) : Position :=
  ⟨1 + front.count '\n', 1 + (front.reverse.takeWhile (· ≠ '\n')).length, byteLength front⟩

lemma Position.step_after (front : List Char) (c : Char) :
    (after front).step c = after (front ++ [c]) := by
  have hbytes : byteLength (front ++ [c]) = byteLength front + c.utf8Size := by
    rw [byteLength_append, byteLength, byteLength, Nat.add_zero]
  unfold step after
  by_cases hc : c = '\n'
  · rw [if_pos hc, hbytes]
    simp [hc, Nat.add_assoc]
  · rw [if_neg hc, hbytes]
    simp [hc, Nat.add_comm]

/-- Step by step, the same position is reached. -/
lemma Position.foldl_step_after (front t : List Char) :
    t.foldl step (after front) = after (front ++ t) := by
  induction t generalizing front with
  | nil => rw [List.foldl_nil, List.append_nil]
  | cons c t ih => rw [List.foldl_cons, step_after, ih, List.append_assoc, List.singleton_append]

namespace Place

/-- The place behind `front` and in front of `back`. -/
def between (front back : List Char) : Place := ⟨front.reverse, back, .after front⟩

/-- A place where `text` is cut in two. -/
def IsIn (text : List Char) (p : Place) : Prop :=
  ∃ front back, text = front ++ back ∧ p = between front back

lemma start_eq_between (text : List Char) : start text = between [] text := rfl

lemma past_between (front t back : List Char) :
    (between front (t ++ back)).past t = between (front ++ t) back := by
  unfold past between
  rw [Position.foldl_step_after, List.drop_left, List.reverse_append]

lemma isIn_start (text : List Char) : (start text).IsIn text := ⟨[], text, rfl, rfl⟩

/-- Reading what is ahead leads to another place in the same text. -/
lemma IsIn.past {text t : List Char} {p : Place} (h : p.IsIn text) (ht : t <+: p.ahead) :
    (p.past t).IsIn text := by
  obtain ⟨front, back, rfl, rfl⟩ := h
  obtain ⟨rest, hrest⟩ := ht
  have hback : back = t ++ rest := hrest.symm
  subst hback
  exact ⟨front ++ t, rest, (List.append_assoc front t rest).symm, past_between front t rest⟩

end Place

/-! ## Errors at a place -/

/-- The symbol that an error names, told from the text in front of it. -/
def lastSymbol (front : List Char) : String := front.getLast?.elim "<unknown>" String.singleton

/-- No symbol reads like the one that is named where there is none. -/
lemma lastSymbol_eq_unknown_iff (front : List Char) :
    lastSymbol front = "<unknown>" ↔ front = [] := by
  unfold lastSymbol
  cases hlast : front.getLast? with
  | none => simpa using hlast
  | some x =>
    have hne : String.singleton x ≠ "<unknown>" := by
      intro heq
      have hlength := congrArg String.length heq
      rw [String.length_singleton] at hlength
      exact absurd hlength (by decide)
    refine iff_of_false hne fun hfront => ?_
    rw [hfront] at hlast
    cases hlast

namespace Cursor

variable {c : Cursor} {front back : List Char}

/-- From the start of a text, what is read is what is behind. -/
lemma place_past_ofSymbols (front back : List Char) :
    ((ofSymbols (front ++ back)).past front).place = .between front back := by
  show (Place.start (front ++ back)).past front = _
  rw [Place.start_eq_between, Place.past_between, List.nil_append]

lemma place_past_ofString {text : String} (h : text.toList = front ++ back) :
    ((ofString text).past front).place = .between front back := by
  rw [ofString, h, place_past_ofSymbols]

lemma offset_of_place_eq (h : c.place = .between front back) : c.offset = byteLength front := by
  rw [offset, h]
  rfl

lemma tail_of_place_eq (h : c.place = .between front back) : c.tail = String.ofList back := by
  rw [tail, ahead, h]
  rfl

lemma lookbehind_of_place_eq (h : c.place = .between front back) (n : ℕ) :
    c.lookbehind n = if n = 0 then none else front.reverse[n - 1]? := by
  cases n with
  | zero => rfl
  | succ n =>
    rw [lookbehind, h, if_neg (Nat.succ_ne_zero n)]
    rfl

lemma unexpectedSymbol_of_place_eq (h : c.place = .between front back) (expected : String) :
    c.unexpectedSymbol expected
      = .unexpectedSymbol (byteLength front) (lastSymbol front) expected := by
  rw [unexpectedSymbol, offset_of_place_eq h, lookbehind_of_place_eq h, if_neg Nat.one_ne_zero,
    ← List.head?_eq_getElem?, List.head?_reverse]
  rfl

end Cursor

end Parlance
