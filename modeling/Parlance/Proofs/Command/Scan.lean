import Parlance.Proofs.Command.Signature
import Mathlib.Data.Finset.Basic
import Mathlib.Data.Finset.Lattice.Lemmas
import Mathlib.Data.Finset.Range
import Mathlib.Tactic.Tauto

/-!
# The order in which arguments are settled

When arguments are read in some order, each one that is read also settles the optional arguments
declared before it: none of them is flagged at that point, and so they are left out, one after
another, before the scan gets to the argument that is. `settleAt` is the set of places that have
been settled then, and the lemmas below build the greedy schedule from such steps. An argument that
comes up once its place has been settled is not read any more, and neither is anything after it: the
remainder takes it all.
-/

namespace Parlance.Command.Signature

open Parlance.Parser

variable {s : Signature} {chosen : Finset ℕ} {c c' : Cursor} {choices : List (ℕ × Value)} {i t : ℕ}

/-! ## Settled places -/

/-- Whether the argument at `i` may be left out. -/
def isOptional (s : Signature) (i : ℕ) : Bool := (s.arguments[i]?).any fun a => !a.required

/-- The places of the optional arguments declared before the place `t`. -/
def optionalsBelow (s : Signature) (t : ℕ) : Finset ℕ :=
  (Finset.range t).filter fun i => s.isOptional i = true

/-- The places that are settled after the argument at `t` has been read. -/
def settleAt (s : Signature) (chosen : Finset ℕ) (t : ℕ) : Finset ℕ :=
  insert t (chosen ∪ s.optionalsBelow t)

lemma isOptional_eq {a : Argument} (ha : s.arguments[i]? = some a) :
    s.isOptional i = !a.required := by
  rw [isOptional, ha]
  rfl

lemma lt_of_isOptional (h : s.isOptional i = true) : i < s.arguments.length := by
  by_contra hle
  rw [isOptional, List.getElem?_eq_none (Nat.le_of_not_lt hle)] at h
  cases h

lemma mem_optionalsBelow_iff :
    i ∈ s.optionalsBelow t ↔ i < t ∧ s.isOptional i = true := by
  rw [optionalsBelow, Finset.mem_filter, Finset.mem_range]

lemma not_mem_union_optionalsBelow (h : t ∉ chosen) : t ∉ chosen ∪ s.optionalsBelow t := by
  rw [Finset.mem_union, mem_optionalsBelow_iff, not_or]
  exact ⟨h, fun hlt => Nat.lt_irrefl t hlt.1⟩

lemma optionalsBelow_succ (s : Signature) (t : ℕ) :
    s.optionalsBelow (t + 1)
      = if s.isOptional t then insert t (s.optionalsBelow t) else s.optionalsBelow t := by
  rw [optionalsBelow, Finset.range_add_one, Finset.filter_insert]
  rfl

/-- After a sequence of arguments a place is settled if its argument was read, or if it is optional
and declared before one that was. -/
lemma mem_foldl_settleAt_iff {places : List ℕ} :
    i ∈ places.foldl s.settleAt chosen ↔
      i ∈ chosen ∨ i ∈ places ∨ s.isOptional i = true ∧ ∃ t ∈ places, i < t := by
  induction places generalizing chosen with
  | nil => simp
  | cons t places ih =>
    rw [List.foldl_cons, ih, settleAt]
    simp only [Finset.mem_insert, Finset.mem_union, mem_optionalsBelow_iff, List.mem_cons,
      exists_eq_or_imp]
    tauto

/-! ## Arguments that are not flagged -/

/-- The argument at `i` cannot be read from `c`. -/
def Quiet (s : Signature) (c : Cursor) (i : ℕ) : Prop :=
  ∀ a, s.arguments[i]? = some a → (positional a.name a.kind).parse.Fails c

lemma Quiet.fails (hi : i < s.arguments.length) (hrequired : s.isOptional i = false)
    (hquiet : s.Quiet c i) : (parseBranch s.entries i).Fails c := by
  have ha : s.arguments[i]? = some s.arguments[i] := List.getElem?_eq_getElem hi
  rw [isOptional_eq ha, Bool.not_eq_false'] at hrequired
  rw [parseBranch_of_argument ha]
  exact Argument.fails_parser_iff.mpr ⟨hrequired, hquiet _ ha⟩

section Steps

variable (hkinds : ∀ a ∈ s.arguments, a.kind.attempt.Orderly)

include hkinds

lemma Quiet.accepts_null (hoptional : s.isOptional i = true) (hquiet : s.Quiet c i) :
    (parseBranch s.entries i).Accepts c .null c := by
  have ha : s.arguments[i]? = some _ := List.getElem?_eq_getElem (lt_of_isOptional hoptional)
  rw [isOptional_eq ha, Bool.not_eq_true'] at hoptional
  rw [parseBranch_of_argument ha]
  exact (Argument.accepts_parser_iff (hkinds _ (List.mem_of_getElem? ha))).mpr
    (Or.inr ⟨hoptional, rfl, rfl, hquiet _ ha⟩)

/-! ## Steps of the schedule -/

/-- Where no argument declared before `t` can be read, the optional ones are left out first. -/
lemma exists_leave_out (ht : t ≤ s.arguments.length)
    (hquiet : ∀ k < t, k ∉ chosen → s.Quiet c k)
    (h : Schedule s.entries (chosen ∪ s.optionalsBelow t) c choices c') :
    ∃ nulls, Schedule s.entries chosen c (nulls ++ choices) c' ∧
      ∀ choice ∈ nulls, s.isOptional choice.1 = true ∧ choice.2 = .null := by
  -- the induction goes down from `t`, so that the place left out last comes first in the proof
  induction t generalizing choices with
  | zero =>
    refine ⟨[], ?_, List.forall_mem_nil _⟩
    have hempty : chosen ∪ s.optionalsBelow 0 = chosen := Finset.union_empty chosen
    rwa [hempty] at h
  | succ t ih =>
    have ht' : t ≤ s.arguments.length := Nat.le_of_succ_le ht
    have hquiet' : ∀ k < t, k ∉ chosen → s.Quiet c k :=
      fun k hk => hquiet k (Nat.lt_succ_of_lt hk)
    rw [optionalsBelow_succ] at h
    split at h
    · next hoptional =>
      rw [Finset.union_insert] at h
      by_cases hchosen : t ∈ chosen
      · rw [Finset.insert_eq_of_mem (Finset.mem_union_left _ hchosen)] at h
        exact ih ht' hquiet' h
      · -- the argument at `t` is the last one to be left out
        have hnot : t ∉ chosen ∪ s.optionalsBelow t := not_mem_union_optionalsBelow hchosen
        have hbefore : ∀ k < t, k ∉ chosen ∪ s.optionalsBelow t →
            (parseBranch s.entries k).Fails c := by
          intro k hk hmem
          rw [Finset.mem_union, mem_optionalsBelow_iff, not_or, not_and] at hmem
          exact (hquiet' k hk hmem.1).fails (by omega) (Bool.not_eq_true _ ▸ hmem.2 hk)
        have hnull := (hquiet t (Nat.lt_succ_self t) hchosen).accepts_null hkinds hoptional
        obtain ⟨nulls, hschedule, hnulls⟩ := ih ht' hquiet' (.choose hnot hbefore hnull h)
        refine ⟨nulls ++ [(t, .null)], by rwa [List.append_assoc], ?_⟩
        intro choice hchoice
        rcases List.mem_append.mp hchoice with hmem | hmem
        · exact hnulls choice hmem
        · rw [List.mem_singleton] at hmem
          subst hmem
          exact ⟨hoptional, rfl⟩
    · exact ih ht' hquiet' h

/-- An argument that is read settles the optional ones declared before it. -/
lemma exists_settle_step {v : Value} {c₁ : Cursor} (ht : t < s.arguments.length)
    (hnot : t ∉ chosen) (hquiet : ∀ k < t, s.Quiet c k)
    (hread : (parseBranch s.entries t).Accepts c v c₁)
    (h : Schedule s.entries (s.settleAt chosen t) c₁ choices c') :
    ∃ nulls, Schedule s.entries chosen c (nulls ++ (t, v) :: choices) c' ∧
      ∀ choice ∈ nulls, s.isOptional choice.1 = true ∧ choice.2 = .null := by
  refine exists_leave_out hkinds ht.le (fun k hk _ => hquiet k hk)
    (.choose (not_mem_union_optionalsBelow hnot) ?_ hread h)
  · intro k hk hmem
    rw [Finset.mem_union, mem_optionalsBelow_iff, not_or, not_and] at hmem
    exact (hquiet k hk).fails (hk.trans ht) (Bool.not_eq_true _ ▸ hmem.2 hk)

/-- Where no argument that is left can be read, the optional ones are left out, the remainder takes
all the text, and the schedule ends there. -/
lemma exists_finish (hnot : s.arguments.length ∉ chosen)
    (hquiet : ∀ k < s.arguments.length, k ∉ chosen → s.Quiet c k) :
    ∃ nulls, Schedule s.entries chosen c
        (nulls ++ [(s.arguments.length, .str (String.ofList (c.ahead.dropWhile isBlank)))])
        (c.past c.ahead) ∧
      ∀ choice ∈ nulls, s.isOptional choice.1 = true ∧ choice.2 = .null := by
  -- only arguments that have to be given are left
  have hleft : ∀ k < s.arguments.length, k ∉ chosen ∪ s.optionalsBelow s.arguments.length →
      s.isOptional k = false ∧ s.Quiet c k := by
    intro k hk hmem
    rw [Finset.mem_union, mem_optionalsBelow_iff, not_or, not_and] at hmem
    exact ⟨Bool.not_eq_true _ ▸ hmem.2 hk, hquiet k hk hmem.1⟩
  refine exists_leave_out hkinds (Nat.le_refl _) hquiet
    (.choose (not_mem_union_optionalsBelow hnot) ?_ ?_ (.stop ?_))
  · intro k hk hmem
    obtain ⟨hrequired, hquiet⟩ := hleft k hk hmem
    exact hquiet.fails hk hrequired
  · rw [parseBranch_remainder]
    exact accepts_remainder c
  · -- what is left has to be given, and nothing is flagged at the end of the text
    intro k hk hmem
    rw [Finset.mem_insert, not_or] at hmem
    rw [length_entries] at hk
    have hlt : k < s.arguments.length := by omega
    refine Quiet.fails hlt (hleft k hlt hmem.2).1 fun a _ =>
      fails_positional fun lead gap body => ?_
    rw [ahead_past_ahead]
    exact not_flagged_nil

end Steps

end Parlance.Command.Signature
