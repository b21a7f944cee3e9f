import Parlance.Parser.Unordered
import Parlance.Proofs.Outcome
import Mathlib.Data.Finset.Insert
import Mathlib.Data.List.Nodup

/-!
# The greedy schedule

Branches in any order are settled greedily: from where the last one stopped, the first branch of
those not yet chosen that succeeds is chosen next, until none does. `Schedule` says this with
places in the order of declaration and a set of chosen ones, without passes and without a list of
what is pending. It is unique, chooses no branch twice, and ends where every branch that it has not
chosen fails.
-/

namespace Parlance.Parser

variable {α : Type}

/-- `Schedule branches chosen c choices c'`: with the branches in `chosen` already settled, the
greedy schedule from `c` makes the choices listed, each a place with its value, and ends at `c'`. -/
inductive Schedule (branches : List (Parser α)) :
    Finset ℕ → Cursor → List (ℕ × α) → Cursor → Prop
  /-- Every branch that is left fails. -/
  | stop {chosen : Finset ℕ} {c : Cursor} :
    (∀ i < branches.length, i ∉ chosen → (parseBranch branches i).Fails c) →
    Schedule branches chosen c [] c
  /-- Of the branches that are left, the one at `i` is the first to succeed. -/
  | choose {chosen : Finset ℕ} {c c₁ c' : Cursor} {i : ℕ} {a : α} {choices : List (ℕ × α)} :
    i ∉ chosen → (∀ k < i, k ∉ chosen → (parseBranch branches k).Fails c) →
    (parseBranch branches i).Accepts c a c₁ →
    Schedule branches (insert i chosen) c₁ choices c' →
    Schedule branches chosen c ((i, a) :: choices) c'

/-! ## Branches by place -/

lemma parseBranch_of_getElem? {branches : List (Parser α)} {i : ℕ} {p : Parser α}
    (h : branches[i]? = some p) : parseBranch branches i = p.parse := by
  rw [parseBranch, h]

/-- Only a branch that exists succeeds. -/
lemma exists_getElem?_of_accepts_parseBranch {branches : List (Parser α)} {i : ℕ} {a : α}
    {c c' : Cursor} (h : (parseBranch branches i).Accepts c a c') :
    ∃ p, branches[i]? = some p := by
  cases hi : branches[i]? with
  | some p => exact ⟨p, rfl⟩
  | none =>
    rw [parseBranch, hi] at h
    exact absurd h Parse.not_accepts_fail

lemma lt_of_accepts_parseBranch {branches : List (Parser α)} {i : ℕ} {a : α} {c c' : Cursor}
    (h : (parseBranch branches i).Accepts c a c') : i < branches.length := by
  obtain ⟨p, hp⟩ := exists_getElem?_of_accepts_parseBranch h
  obtain ⟨hi, -⟩ := List.getElem?_eq_some_iff.mp hp
  exact hi

/-! ## Choices -/

/-- Choices of every place give a value for every place. -/
lemma exists_mem_of_length_eq {choices : List (ℕ × α)} {n : ℕ}
    (hnodup : (choices.map Prod.fst).Nodup) (hrange : ∀ choice ∈ choices, choice.1 < n)
    (hlength : choices.length = n) {i : ℕ} (hi : i < n) : ∃ a, (i, a) ∈ choices := by
  have hsubset : choices.map Prod.fst ⊆ List.range n := by
    intro k hk
    obtain ⟨choice, hchoice, rfl⟩ := List.mem_map.mp hk
    exact List.mem_range.mpr (hrange choice hchoice)
  -- as many different places as there are below `n` are all the places below `n`
  have hperm : (choices.map Prod.fst).Perm (List.range n) := by
    apply (List.subperm_of_subset hnodup hsubset).perm_of_length_le
    rw [List.length_range, List.length_map, hlength]
  obtain ⟨choice, hchoice, rfl⟩ := List.mem_map.mp (hperm.mem_iff.mpr (List.mem_range.mpr hi))
  exact ⟨choice.2, hchoice⟩

namespace Schedule

variable {branches : List (Parser α)} {chosen : Finset ℕ} {c c' : Cursor}
  {choices : List (ℕ × α)}

/-- There is one schedule at most. -/
theorem unique {choices₁ choices₂ : List (ℕ × α)} {c₁ c₂ : Cursor}
    (h₁ : Schedule branches chosen c choices₁ c₁) (h₂ : Schedule branches chosen c choices₂ c₂) :
    choices₁ = choices₂ ∧ c₁ = c₂ := by
  -- the first choices agree, and so do the schedules behind them
  induction h₁ generalizing choices₂ c₂ with
  | stop hstop =>
    cases h₂ with
    | stop => exact ⟨rfl, rfl⟩
    | choose hi _ haccepts =>
      exact absurd (hstop _ (lt_of_accepts_parseBranch haccepts) hi) haccepts.not_fails
  | @choose chosen c d₁ _ i a _ hi hbefore haccepts _ ih =>
    cases h₂ with
    | stop hstop =>
      exact absurd (hstop _ (lt_of_accepts_parseBranch haccepts) hi) haccepts.not_fails
    | @choose _ _ d₂ _ k b _ hk hbefore' haccepts' hrest =>
      -- neither place can come before the other
      have hik : i = k := by
        rcases Nat.lt_trichotomy i k with hlt | heq | hlt
        · exact absurd (hbefore' i hlt hi) haccepts.not_fails
        · exact heq
        · exact absurd (hbefore k hlt hk) haccepts'.not_fails
      subst hik
      obtain ⟨rfl, rfl⟩ := haccepts.unique haccepts'
      obtain ⟨rfl, rfl⟩ := ih hrest
      exact ⟨rfl, rfl⟩

/-- From a place where all branches fare alike the schedule makes the same choices, and from the
first of them on it is the same schedule. -/
lemma exists_of_alike {d : Cursor} (hfails : ∀ i, (parseBranch branches i).Fails c →
      (parseBranch branches i).Fails d)
    (haccepts : ∀ i a c₁, (parseBranch branches i).Accepts c a c₁ →
      (parseBranch branches i).Accepts d a c₁)
    (h : Schedule branches chosen c choices c') :
    ∃ d', Schedule branches chosen d choices d' ∧ (choices ≠ [] → d' = c') := by
  cases h with
  | stop hstop =>
    exact ⟨d, .stop fun i hi hnot => hfails i (hstop i hi hnot), fun hne => absurd rfl hne⟩
  | choose hi hbefore hchosen hrest =>
    have hbefore' := fun k hk hnot => hfails k (hbefore k hk hnot)
    exact ⟨c', .choose hi hbefore' (haccepts _ _ _ hchosen) hrest, fun _ => rfl⟩

/-- A choice is of a branch that exists and was not chosen before. -/
lemma mem_range (h : Schedule branches chosen c choices c') :
    ∀ choice ∈ choices, choice.1 < branches.length ∧ choice.1 ∉ chosen := by
  induction h with
  | stop => exact List.forall_mem_nil _
  | choose hi _ haccepts _ ih =>
    refine List.forall_mem_cons.mpr ⟨⟨lt_of_accepts_parseBranch haccepts, hi⟩, ?_⟩
    intro choice hchoice
    obtain ⟨hlt, hnot⟩ := ih choice hchoice
    exact ⟨hlt, fun hmem => hnot (Finset.mem_insert_of_mem hmem)⟩

/-- No branch is chosen twice. -/
lemma nodup_places (h : Schedule branches chosen c choices c') :
    (choices.map Prod.fst).Nodup := by
  induction h with
  | stop => exact List.nodup_nil
  | @choose chosen c c₁ _ i a choices hi _ _ hrest ih =>
    refine List.nodup_cons.mpr ⟨fun hmem => ?_, ih⟩
    obtain ⟨choice, hchoice, heq⟩ := List.mem_map.mp hmem
    exact (hrest.mem_range choice hchoice).2 (heq ▸ Finset.mem_insert_self i chosen)

/-- A branch that is never chosen fails where the schedule ends. -/
lemma fails_of_not_mem (h : Schedule branches chosen c choices c') {i : ℕ}
    (hi : i < branches.length) (hnot : i ∉ chosen) (hnever : i ∉ choices.map Prod.fst) :
    (parseBranch branches i).Fails c' := by
  induction h with
  | stop hstop => exact hstop i hi hnot
  | choose _ _ _ _ ih =>
    rw [List.map_cons, List.mem_cons, not_or] at hnever
    refine ih ?_ hnever.2
    rw [Finset.mem_insert, not_or]
    exact ⟨hnever.1, hnot⟩

/-- There are no more choices than branches, and as many if every branch is chosen. -/
lemma length_le (h : Schedule branches chosen c choices c') :
    choices.length ≤ branches.length := by
  have hsubset : choices.map Prod.fst ⊆ List.range branches.length := by
    intro k hk
    obtain ⟨choice, hchoice, rfl⟩ := List.mem_map.mp hk
    exact List.mem_range.mpr (h.mem_range choice hchoice).1
  have hle := (List.subperm_of_subset h.nodup_places hsubset).length_le
  rwa [List.length_map, List.length_range] at hle

lemma length_eq_iff (h : Schedule branches chosen c choices c') :
    choices.length = branches.length ↔
      ∀ i < branches.length, i ∈ choices.map Prod.fst := by
  constructor
  · intro hlength i hi
    have hrange : ∀ choice ∈ choices, choice.1 < branches.length :=
      fun choice hchoice => (h.mem_range choice hchoice).1
    obtain ⟨a, ha⟩ := exists_mem_of_length_eq h.nodup_places hrange hlength hi
    exact List.mem_map_of_mem ha
  · intro hall
    have hsubset : List.range branches.length ⊆ choices.map Prod.fst :=
      fun i hi => hall i (List.mem_range.mp hi)
    have hle := (List.subperm_of_subset List.nodup_range hsubset).length_le
    rw [List.length_map, List.length_range] at hle
    exact Nat.le_antisymm h.length_le hle

end Schedule

end Parlance.Parser
