import Parlance.Regex
import Mathlib.Tactic.Common
import Mathlib.Tactic.Lemma

/-!
# Where matches lie

A match lies in the text that is searched (`find?_bounds`). An expression that begins with the mark
for the start of the text is found only there: a program that starts with the mark has no threads
left at any other place, so it makes no difference whether the search goes on
(`BeginsText.search_eq`).
-/

namespace Parlance.Regex

variable {code : Code} {program : Program} {groups offset : ℕ} {behind : Option Char}
  {text : List Char} {m : Match}

/-! ## Bounds -/

/-- A run that goes beyond the best match so far ends in the text ahead. -/
lemma run_bounds {best : Option Found} {threads : List Thread} {f : Found}
    (h : run code best offset behind threads text = some f) :
    best = some f ∨ offset ≤ f.stop ∧ f.stop ≤ offset + text.length := by
  induction text generalizing best offset behind threads with
  | nil =>
    rw [run] at h
    split at h
    · right
      cases h
      exact ⟨Nat.le_refl _, Nat.le_add_right _ _⟩
    · exact .inl h
  | cons c text ih =>
    -- what has been found up to here is either a match that ends here or the best one so far
    have hhere {t : Thread} (hfound : some (⟨offset, t.slots⟩ : Found) = some f) :
        best = some f ∨ offset ≤ f.stop ∧ f.stop ≤ offset + (c :: text).length := by
      cases hfound
      exact .inr ⟨Nat.le_refl _, Nat.le_add_right _ _⟩
    rw [run] at h
    split at h
    · split at h
      · exact hhere h
      · exact .inl h
    · rcases ih h with hbest | ⟨hlow, hhigh⟩
      · split at hbest
        · exact hhere hbest
        · exact .inl hbest
      · rw [List.length_cons]
        exact .inr ⟨by omega, by omega⟩

lemma matchAt_bounds (h : matchAt program groups offset behind text = some m) :
    m.start = offset ∧ m.start ≤ m.stop ∧ m.stop ≤ offset + text.length := by
  obtain ⟨f, hrun, rfl⟩ := Option.map_eq_some_iff.mp h
  rcases run_bounds hrun with hnone | hbounds
  · cases hnone
  · exact ⟨rfl, hbounds⟩

lemma search_bounds (h : search program groups offset behind text = some m) :
    m.start ≤ m.stop ∧ m.stop ≤ offset + text.length := by
  induction text generalizing offset behind with
  | nil =>
    rw [search] at h
    split at h
    · next hmatch =>
      cases h
      exact (matchAt_bounds hmatch).2
    · cases h
  | cons c text ih =>
    rw [search] at h
    split at h
    · next hmatch =>
      cases h
      exact (matchAt_bounds hmatch).2
    · obtain ⟨hstart, hstop⟩ := ih h
      rw [List.length_cons]
      exact ⟨hstart, by omega⟩

/-- A match lies in the text. -/
theorem find?_bounds {r : Regex} (h : r.find? text = some m) :
    m.start ≤ m.stop ∧ m.stop ≤ text.length := by
  unfold find? at h
  split at h
  · obtain ⟨-, hbounds⟩ := matchAt_bounds h
    rwa [Nat.zero_add] at hbounds
  · have hbounds := search_bounds h
    rwa [Nat.zero_add] at hbounds

/-! ## The start of the text -/

/-- The mark for the start of the text is in front of the expression. -/
inductive BeginsText : Expr → Prop
  | mark : BeginsText (.look .textStart)
  | cat (e : Expr) : BeginsText (.cat (.look .textStart) e)

/-- Nothing else is put together with the mark. -/
lemma beginsText_sequence (e : Expr) : BeginsText (Expr.sequence [.look .textStart, e]) := by
  show BeginsText (Expr.ofFactors (.look .textStart :: Expr.joinTexts _))
  cases Expr.joinTexts _ with
  | nil => exact .mark
  | cons f fs => exact .cat _

namespace BeginsText

variable {e : Expr}

/-- A choice with one branch is that branch. -/
lemma choice_singleton (h : BeginsText e) : Expr.choice [e] = e := by
  cases h <;> rfl

/-- The program of the expression starts with the mark. -/
lemma fetch_start (h : BeginsText e) :
    ∃ next, (Program.ofExpr e).code.fetch (Program.ofExpr e).start
      = some (.look .textStart next) := by
  cases h with
  | mark => exact ⟨0, rfl⟩
  | cat f =>
    refine ⟨(f.emit 0 #[.done]).1, ?_⟩
    exact Array.getElem?_push_size

/-- Behind a symbol no thread gets past the mark. -/
lemma settled_eq_nil (h : BeginsText e) (offset : ℕ) (c : Char) (ahead : Option Char) :
    settled (Program.ofExpr e).code ⟨offset, some c, ahead⟩ [⟨(Program.ofExpr e).start, []⟩]
      = [] := by
  obtain ⟨next, hfetch⟩ := h.fetch_start
  have hnone (fuel : ℕ) (seen : Array Bool) :
      settleThreads (Program.ofExpr e).code ⟨offset, some c, ahead⟩ fuel [] seen [] = [] := by
    cases fuel <;> rfl
  unfold settled
  rw [settleThreads]
  split
  · exact hnone _ _
  · simp only [hfetch]
    exact hnone _ _

lemma matchAt_eq_none (h : BeginsText e) (groups offset : ℕ) (c : Char) (text : List Char) :
    matchAt (Program.ofExpr e) groups offset (some c) text = none := by
  unfold matchAt
  cases text with
  | nil =>
    rw [run, h.settled_eq_nil]
    rfl
  | cons x text =>
    rw [run, h.settled_eq_nil]
    rfl

lemma search_eq_none (h : BeginsText e) (groups offset : ℕ) (c : Char) (text : List Char) :
    search (Program.ofExpr e) groups offset (some c) text = none := by
  induction text generalizing offset c with
  | nil => rw [search, h.matchAt_eq_none]
  | cons x text ih =>
    rw [search, h.matchAt_eq_none]
    exact ih (offset + 1) x

/-- A search through the whole text finds what is at its start. -/
theorem search_eq (h : BeginsText e) (groups : ℕ) (text : List Char) :
    search (Program.ofExpr e) groups 0 none text
      = matchAt (Program.ofExpr e) groups 0 none text := by
  cases text with
  | nil =>
    rw [search]
    cases matchAt (Program.ofExpr e) groups 0 none [] <;> rfl
  | cons x text =>
    rw [search]
    cases matchAt (Program.ofExpr e) groups 0 none (x :: text) with
    | none => exact h.search_eq_none groups 1 x text
    | some m => rfl

/-- So a match starts where the text does. -/
theorem find?_start {r : Regex} (h : BeginsText r.expr) (hprogram : r.program = .ofExpr r.expr)
    (hfind : r.find? text = some m) : m.start = 0 := by
  unfold find? at hfind
  rw [hprogram, h.search_eq, ite_self] at hfind
  exact (matchAt_bounds hfind).1

end BeginsText

end Parlance.Regex
