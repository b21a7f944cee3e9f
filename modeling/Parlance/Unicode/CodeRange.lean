/-!
# Tables of code points

A set of symbols is given as a list of ranges of code points, both ends included, in ascending
order.
-/

namespace Parlance.Unicode

/-- Whether the code point of `c` lies in one of the ranges. -/
def inRanges (ranges : List (Nat × Nat)) (c : Char) : Bool :=
  ranges.any fun (low, high) => low ≤ c.toNat && c.toNat ≤ high

/-- Whether each range ends after it starts and before the next one starts. -/
def ascending : List (Nat × Nat) → Bool
  | [] => true
  | [(low, high)] => low ≤ high
  | (low, high) :: (low', high') :: ranges =>
    low ≤ high && high < low' && ascending ((low', high') :: ranges)

/-- Ascending ranges are a range and ascending ranges behind its end. -/
theorem ascending_cons_iff {low high : Nat} {ranges : List (Nat × Nat)} :
    ascending ((low, high) :: ranges) = true ↔
      low ≤ high ∧ (∀ r ∈ ranges, high < r.1) ∧ ascending ranges = true := by
  induction ranges generalizing low high with
  | nil => simp [ascending]
  | cons r ranges ih =>
    obtain ⟨low', high'⟩ := r
    simp only [ascending, Bool.and_eq_true, decide_eq_true_eq, List.forall_mem_cons]
    constructor
    · rintro ⟨⟨h, hgap⟩, hrest⟩
      have ⟨h', hbehind, _⟩ := ih.1 hrest
      exact ⟨h, ⟨hgap, fun r hr => by have := hbehind r hr; omega⟩, hrest⟩
    · rintro ⟨h, ⟨hgap, _⟩, hrest⟩
      exact ⟨⟨h, hgap⟩, hrest⟩

end Parlance.Unicode
