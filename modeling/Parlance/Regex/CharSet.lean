import Parlance.Unicode.CaseFold
import Parlance.Unicode.Digit
import Parlance.Unicode.Space
import Parlance.Unicode.Word

/-!
# Sets of symbols

A set of symbols is held as the list of its ranges of code points, in ascending order and with a
gap after each, so that two lists are equal if the sets are. Joining two sets adds the symbols of
both (`inRanges_insertRange`), and a complement holds the symbols that are not in the set
(`inRanges_complFrom`).
-/

namespace Parlance.Regex

open Unicode (inRanges ascending)

/-! ## Ranges -/

/-- Adds a range to ascending ranges. It is joined with those that it meets or touches. -/
def insertRange (low high : Nat) : List (Nat × Nat) → List (Nat × Nat)
  | [] => [(low, high)]
  | (low', high') :: ranges =>
    if high + 1 < low' then (low, high) :: (low', high') :: ranges
    else if high' + 1 < low then (low', high') :: insertRange low high ranges
    else insertRange (min low low') (max high high') ranges

/-- The greatest code point there is. -/
def lastCode : Nat := 0x10FFFF

/-- The code point after `n`. None of a symbol lies in the gap that UTF-16 uses for itself. -/
def codeAfter (n : Nat) : Nat := if n = 0xD7FF then 0xE000 else n + 1

/-- The code point in front of `n`. -/
def codeBefore (n : Nat) : Nat := if n = 0xE000 then 0xD7FF else n - 1

/-- The code points from `next` on that lie in none of the ascending ranges. -/
def complFrom (next : Nat) : List (Nat × Nat) → List (Nat × Nat)
  | [] => if next ≤ lastCode then [(next, lastCode)] else []
  | (low, high) :: ranges =>
    if next < low then (next, codeBefore low) :: complFrom (codeAfter high) ranges
    else complFrom (codeAfter high) ranges

/-- A symbol is in one of the ranges after one is added if it was before or is in the new one. -/
theorem inRanges_insertRange {low high : Nat} {ranges : List (Nat × Nat)} (c : Char)
    (h : low ≤ high) (hs : ∀ r ∈ ranges, r.1 ≤ r.2) :
    inRanges (insertRange low high ranges) c =
      ((decide (low ≤ c.toNat) && decide (c.toNat ≤ high)) || inRanges ranges c) := by
  induction ranges generalizing low high with
  | nil => simp [insertRange, inRanges]
  | cons r ranges ih =>
    obtain ⟨low', high'⟩ := r
    have h' : low' ≤ high' := hs (low', high') List.mem_cons_self
    have hs' : ∀ r ∈ ranges, r.1 ≤ r.2 := fun r hr => hs r (List.mem_cons_of_mem _ hr)
    have hcons : ∀ l, inRanges ((low', high') :: l) c =
        ((decide (low' ≤ c.toNat) && decide (c.toNat ≤ high')) || inRanges l c) := fun l => by
      simp [inRanges]
    by_cases hbefore : high + 1 < low'
    · simp [insertRange, hbefore, inRanges]
    · by_cases hafter : high' + 1 < low
      · rw [insertRange, if_neg hbefore, if_pos hafter, hcons, hcons, ih h hs']
        exact Bool.or_left_comm _ _ _
      · -- the two ranges meet or touch, and what lies between their ends is in one of them
        rw [insertRange, if_neg hbefore, if_neg hafter, ih (by omega) hs', hcons,
          ← Bool.or_assoc]
        congr 1
        rw [Bool.eq_iff_iff]
        simp only [Bool.and_eq_true, Bool.or_eq_true, decide_eq_true_eq]
        omega

/-- From `next` on, the symbols of the complement are those that are not in the ranges. The ranges
that end in front of `next` have been left out. -/
theorem inRanges_complFrom {next : Nat} {ranges : List (Nat × Nat)} (c : Char)
    (hasc : ascending ranges = true)
    (hskipped : c.toNat < next → ∀ r ∈ ranges, c.toNat < r.1) :
    inRanges (complFrom next ranges) c = (decide (next ≤ c.toNat) && !inRanges ranges c) := by
  have hvalid : c.toNat < 0xD800 ∨ 0xDFFF < c.toNat ∧ c.toNat < 0x110000 := c.valid
  induction ranges generalizing next with
  | nil =>
    by_cases h : next ≤ lastCode
    · have hlast : c.toNat ≤ lastCode := by simp only [lastCode]; omega
      simp [complFrom, h, inRanges, hlast]
    · have hlast : c.toNat < next := by simp only [lastCode] at h; omega
      simp [complFrom, h, inRanges, hlast]
  | cons r ranges ih =>
    obtain ⟨low, high⟩ := r
    have ⟨hle, hbehind, hasc'⟩ := Unicode.ascending_cons_iff.1 hasc
    -- in front of the ranges that follow lies nothing of them
    have hfront : c.toNat ≤ high → inRanges ranges c = false := fun h => by
      simp only [inRanges, List.any_eq_false, Bool.and_eq_true, decide_eq_true_eq]
      intro r hr
      have := hbehind r hr
      omega
    have hrest : inRanges (complFrom (codeAfter high) ranges) c =
        (decide (codeAfter high ≤ c.toNat) && !inRanges ranges c) := ih hasc' fun h r hr => by
      have := hbehind r hr
      simp only [codeAfter] at h
      split at h <;> omega
    have hlow : c.toNat < next → c.toNat < low := fun h => hskipped h (low, high) List.mem_cons_self
    have hcons : ∀ l h ls, inRanges ((l, h) :: ls) c =
        ((decide (l ≤ c.toNat) && decide (c.toNat ≤ h)) || inRanges ls c) := fun l h ls => by
      simp [inRanges]
    have hafter : codeAfter high ≤ c.toNat ↔ high < c.toNat := by
      simp only [codeAfter]; split <;> omega
    have hbefore : next < low → (c.toNat ≤ codeBefore low ↔ c.toNat < low) := fun h => by
      simp only [codeBefore]; split <;> omega
    by_cases hc : c.toNat ≤ high
    · have hno : ¬codeAfter high ≤ c.toNat := by rw [hafter]; omega
      rw [complFrom, hcons, hfront hc]
      split
      · rename_i h
        rw [hcons, hrest]
        simp only [hno, hbefore h]
        rw [Bool.eq_iff_iff]
        simp
        omega
      · rw [hrest]
        simp only [hno]
        rw [Bool.eq_iff_iff]
        simp
        omega
    · have hno : ¬c.toNat < next := fun h => by have := hlow h; omega
      have hyes : codeAfter high ≤ c.toNat := hafter.2 (by omega)
      rw [complFrom, hcons]
      split
      · rename_i h
        have hin : ¬c.toNat ≤ codeBefore low := by rw [hbefore h]; omega
        simp [hcons, hrest, hc, hin, hyes, Nat.le_of_not_lt hno]
      · simp [hrest, hc, hyes, Nat.le_of_not_lt hno]

/-! ## Sets -/

/-- A set of symbols. -/
structure CharSet where
  ranges : List (Nat × Nat)
deriving DecidableEq, Repr

namespace CharSet

/-- Whether `c` is in the set. -/
def contains (s : CharSet) (c : Char) : Bool := inRanges s.ranges c

/-- The set without symbols. -/
def empty : CharSet := ⟨[]⟩

/-- Whether the set has no symbols. -/
def isEmpty (s : CharSet) : Bool := s.ranges.isEmpty

/-- The symbols from `low` to `high`, both included. -/
def range (low high : Char) : CharSet := ⟨[(low.toNat, high.toNat)]⟩

/-- The set of one symbol. -/
def single (c : Char) : CharSet := .range c c

/-- Decimal digits. -/
def digit : CharSet := ⟨Unicode.digitRanges⟩

/-- White space. -/
def space : CharSet := ⟨Unicode.spaceRanges⟩

/-- Word symbols. -/
def word : CharSet := ⟨Unicode.wordRanges⟩

/-- The symbols of both sets. -/
def union (s t : CharSet) : CharSet :=
  ⟨s.ranges.foldr (fun (low, high) ranges => insertRange low high ranges) t.ranges⟩

/-- All symbols outside of `s`. -/
def compl (s : CharSet) : CharSet := ⟨complFrom 0 s.ranges⟩

/-- The symbols that are in both sets. -/
def inter (s t : CharSet) : CharSet := (s.compl.union t.compl).compl

/-- The symbols of `s` that are not in `t`. -/
def diff (s t : CharSet) : CharSet := s.inter t.compl

/-- The symbols in exactly one of the two sets. -/
def symmDiff (s t : CharSet) : CharSet := (s.diff t).union (t.diff s)

/-- The set or its complement. -/
def complIf (negated : Bool) (s : CharSet) : CharSet := if negated then s.compl else s

/-- The set of all symbols with a code point in one of the ranges, which may be in any order. -/
def ofRanges (ranges : List (Nat × Nat)) : CharSet := union ⟨ranges⟩ empty

/-- The set of the given symbols. -/
def ofList (symbols : List Char) : CharSet := ofRanges (symbols.map fun c => (c.toNat, c.toNat))

/-- The set with all symbols that differ in case from one of its own, where `pairs` gives symbols
with the representatives of their classes: first the representatives are added, and then all that
they stand for. -/
def closeCase (pairs : List (Nat × Nat)) (s : CharSet) : CharSet :=
  let withLeast := union (ofRanges (pairs.filterMap fun (n, least) =>
    if s.contains (Char.ofNat n) then some (least, least) else none)) s
  union (ofRanges (pairs.filterMap fun (n, least) =>
    if withLeast.contains (Char.ofNat least) then some (n, n) else none)) withLeast

/-- The only symbol of a set that has just one. -/
def only? (s : CharSet) : Option Char :=
  match s.ranges with
  | [(low, high)] => if low = high then some (Char.ofNat low) else none
  | _ => none

/-- Whether all symbols of the set are in the basic table. -/
def isBasic (s : CharSet) : Bool := s.ranges.all fun (_, high) => high < 0x80

end CharSet

end Parlance.Regex
