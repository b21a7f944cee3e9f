import Parlance.Proofs.Frame
import Parlance.Proofs.Schedule
import Mathlib.Data.Nat.Find

/-!
# Branches in any order

`unordered` works in passes over a list of pending branches. Here it is shown to compute exactly the
greedy schedule (`accepts_unordered_iff`, `rejects_unordered_iff`): what is pending is always what
has not been chosen, in the order of declaration (`unchosen`), so one pass makes one choice. The
values, put back in place, are those of the branches when they were chosen. There is a schedule
wherever the branches give replies (`Schedule.exists_of_replies`).
-/

namespace Parlance

/-- In a list without repeated keys every entry is found by its key. -/
lemma lookup_eq_some_of_mem {κ β : Type} [BEq κ] [LawfulBEq κ] {entries : List (κ × β)}
    (hnodup : (entries.map Prod.fst).Nodup) {k : κ} {b : β} (h : (k, b) ∈ entries) :
    entries.lookup k = some b := by
  obtain ⟨before, after, rfl⟩ := List.append_of_mem h
  refine List.lookup_eq_some_iff.mpr ⟨before, after, rfl, fun entry hentry => ?_⟩
  rw [List.map_append, List.map_cons, List.nodup_append] at hnodup
  have hne := hnodup.2.2 entry.1 (List.mem_map_of_mem hentry) k List.mem_cons_self
  exact bne_iff_ne.mpr hne.symm

end Parlance

namespace Parlance.Parser

variable {α : Type}

/-! ## One pass -/

section Pass

variable {c c' : Cursor} {pending others : List (Pending α)}

lemma accepts_some_settleOne_iff (horderly : ∀ entry ∈ pending, entry.1.parse.Orderly) {i : ℕ}
    {a : α} :
    (settleOne pending).Accepts c (some ((i, a), others)) c' ↔
      ∃ before p after, pending = before ++ (p, i) :: after ∧ others = before ++ after
        ∧ (∀ entry ∈ before, entry.1.parse.Fails c) ∧ p.parse.Accepts c a c' := by
  induction pending generalizing others with
  | nil =>
    rw [settleOne, Parse.accepts_pure_iff]
    constructor
    · intro hout
      rcases hout with ⟨h, -⟩
      cases h
    · intro hout
      rcases hout with ⟨before, p, after, h, -⟩
      simp at h
  | cons entry pending ih =>
    obtain ⟨p, place⟩ := entry
    have hp : p.parse.Orderly := horderly (p, place) List.mem_cons_self
    have hpending : ∀ entry ∈ pending, entry.1.parse.Orderly :=
      fun q hq => horderly q (List.mem_cons_of_mem _ hq)
    rw [settleOne, Parse.accepts_bind_iff]
    constructor
    · intro hout
      rcases hout with ⟨_ | value, c₁, hfound, h⟩
      · obtain ⟨rfl, hfails⟩ := hp.accepts_none_tentatively_iff.mp hfound
        obtain ⟨_ | ⟨settled, left⟩, c₂, hlater, h⟩ := Parse.accepts_bind_iff.mp h
        · simp at h
        · obtain ⟨heq, rfl⟩ := Parse.accepts_pure_iff.mp h
          simp only [Option.some.injEq, Prod.mk.injEq] at heq
          obtain ⟨rfl, rfl⟩ := heq
          obtain ⟨before, q, after, rfl, rfl, hbefore, hq⟩ := (ih hpending).mp hlater
          exact ⟨(p, place) :: before, q, after, rfl, rfl,
            List.forall_mem_cons.mpr ⟨hfails, hbefore⟩, hq⟩
      · obtain ⟨heq, rfl⟩ := Parse.accepts_pure_iff.mp h
        simp only [Option.some.injEq, Prod.mk.injEq] at heq
        obtain ⟨⟨rfl, rfl⟩, rfl⟩ := heq
        exact ⟨[], p, others, rfl, rfl, List.forall_mem_nil _,
          hp.accepts_some_tentatively_iff.mp hfound⟩
    · intro hout
      rcases hout with ⟨_ | ⟨entry, before⟩, q, after, heq, rfl, hbefore, hq⟩
      · rw [List.nil_append, List.cons.injEq, Prod.mk.injEq] at heq
        obtain ⟨⟨rfl, rfl⟩, rfl⟩ := heq
        exact ⟨some a, c', hp.accepts_some_tentatively_iff.mpr hq,
          Parse.accepts_pure_iff.mpr ⟨rfl, rfl⟩⟩
      · rw [List.cons_append, List.cons.injEq] at heq
        obtain ⟨rfl, rfl⟩ := heq
        obtain ⟨hfails, hbefore⟩ := List.forall_mem_cons.mp hbefore
        have hlater := (ih hpending).mpr ⟨before, q, after, rfl, rfl, hbefore, hq⟩
        exact ⟨none, c, hp.accepts_none_tentatively_iff.mpr ⟨rfl, hfails⟩,
          hlater.bind (Parse.accepts_pure_iff.mpr ⟨rfl, rfl⟩)⟩

lemma accepts_none_settleOne_iff (horderly : ∀ entry ∈ pending, entry.1.parse.Orderly) :
    (settleOne pending).Accepts c none c' ↔ c' = c ∧ ∀ entry ∈ pending, entry.1.parse.Fails c := by
  induction pending with
  | nil => simp [settleOne]
  | cons entry pending ih =>
    obtain ⟨p, place⟩ := entry
    have hp : p.parse.Orderly := horderly (p, place) List.mem_cons_self
    have ih := ih fun q hq => horderly q (List.mem_cons_of_mem _ hq)
    rw [settleOne, Parse.accepts_bind_iff, List.forall_mem_cons]
    constructor
    · intro hout
      rcases hout with ⟨_ | value, c₁, hfound, h⟩
      · obtain ⟨rfl, hfails⟩ := hp.accepts_none_tentatively_iff.mp hfound
        obtain ⟨_ | ⟨settled, left⟩, c₂, hlater, h⟩ := Parse.accepts_bind_iff.mp h
        · obtain ⟨-, rfl⟩ := Parse.accepts_pure_iff.mp h
          obtain ⟨rfl, hrest⟩ := ih.mp hlater
          exact ⟨rfl, hfails, hrest⟩
        · simp at h
      · simp at h
    · intro hout
      rcases hout with ⟨rfl, hfails, hrest⟩
      exact ⟨none, c', hp.accepts_none_tentatively_iff.mpr ⟨rfl, hfails⟩,
        (ih.mpr ⟨rfl, hrest⟩).bind (Parse.accepts_pure_iff.mpr ⟨rfl, rfl⟩)⟩

lemma not_rejects_settleOne {e : ParseError} : ¬ (settleOne pending).Rejects c e c' := by
  induction pending generalizing c c' with
  | nil => exact Parse.not_rejects_pure
  | cons entry pending ih =>
    rw [settleOne, Parse.rejects_bind_iff]
    intro hout
    rcases hout with h | ⟨_ | value, c₁, -, h⟩
    · exact Parse.not_rejects_tentatively h
    · rcases Parse.rejects_bind_iff.mp h with h | ⟨_ | ⟨settled, left⟩, c₂, -, h⟩
      · exact ih h
      · exact Parse.not_rejects_pure h
      · exact Parse.not_rejects_pure h
    · exact Parse.not_rejects_pure h

end Pass

/-! ## The branches that are left -/

/-- The branches that have not been chosen, each with its place. -/
def unchosen (branches : List (Parser α)) (chosen : Finset ℕ) : List (Pending α) :=
  branches.zipIdx.filter fun entry => entry.2 ∉ chosen

section Unchosen

variable {branches : List (Parser α)} {chosen : Finset ℕ}

lemma unchosen_empty (branches : List (Parser α)) : unchosen branches ∅ = branches.zipIdx := by
  refine List.filter_eq_self.mpr fun entry _ => ?_
  exact decide_eq_true (Finset.notMem_empty entry.2)

lemma mem_unchosen_iff {p : Parser α} {i : ℕ} :
    (p, i) ∈ unchosen branches chosen ↔ branches[i]? = some p ∧ i ∉ chosen := by
  rw [unchosen, List.mem_filter, List.mk_mem_zipIdx_iff_getElem?, decide_eq_true_iff]

lemma pairwise_unchosen : (unchosen branches chosen).Pairwise fun p q => p.2 < q.2 := by
  refine List.Pairwise.filter _ (List.pairwise_map.mp ?_)
  rw [List.zipIdx_map_snd]
  exact List.pairwise_lt_range'

/-- Choosing one branch leaves those before it and those after it. -/
lemma unchosen_insert_of_eq {before after : List (Pending α)} {p : Parser α} {i : ℕ}
    (h : unchosen branches chosen = before ++ (p, i) :: after) :
    unchosen branches (insert i chosen) = before ++ after ∧
      (∀ entry ∈ before, entry.2 < i) ∧ ∀ entry ∈ after, i < entry.2 := by
  have hpairwise : (unchosen branches chosen).Pairwise fun p q => p.2 < q.2 := pairwise_unchosen
  rw [h, List.pairwise_append] at hpairwise
  obtain ⟨-, hright, hacross⟩ := hpairwise
  have hbefore : ∀ entry ∈ before, entry.2 < i :=
    fun entry hentry => hacross entry hentry (p, i) List.mem_cons_self
  have hafter : ∀ entry ∈ after, i < entry.2 := (List.pairwise_cons.mp hright).1
  refine ⟨?_, hbefore, hafter⟩
  -- places ascend, so taking out `i` takes out this one entry and no other
  have hfilter : unchosen branches (insert i chosen)
      = (unchosen branches chosen).filter fun entry => entry.2 ≠ i := by
    rw [unchosen, unchosen, List.filter_filter]
    refine List.filter_congr fun entry _ => ?_
    simp [Finset.mem_insert, not_or]
  rw [hfilter, h, List.filter_append, List.filter_cons_of_neg (by simp),
    List.filter_eq_self.mpr fun entry hentry => by simp [(hbefore entry hentry).ne],
    List.filter_eq_self.mpr fun entry hentry => by simp [(hafter entry hentry).ne']]

lemma orderly_unchosen (horderly : ∀ p ∈ branches, p.parse.Orderly) :
    ∀ entry ∈ unchosen branches chosen, entry.1.parse.Orderly := by
  intro entry hentry
  exact horderly entry.1 (List.mem_of_getElem? (mem_unchosen_iff.mp hentry).1)

variable {c c' : Cursor}

/-- A pass settles the first branch that is left and succeeds. -/
lemma accepts_some_pass_iff (horderly : ∀ p ∈ branches, p.parse.Orderly) {i : ℕ} {a : α}
    {others : List (Pending α)} :
    (settleOne (unchosen branches chosen)).Accepts c (some ((i, a), others)) c' ↔
      others = unchosen branches (insert i chosen) ∧ i ∉ chosen
        ∧ (∀ k < i, k ∉ chosen → (parseBranch branches k).Fails c)
        ∧ (parseBranch branches i).Accepts c a c' := by
  rw [accepts_some_settleOne_iff (orderly_unchosen horderly)]
  constructor
  · intro hout
    rcases hout with ⟨before, p, after, heq, rfl, hfails, haccepts⟩
    obtain ⟨hinsert, -, hafter⟩ := unchosen_insert_of_eq heq
    have hmem : (p, i) ∈ unchosen branches chosen := by
      rw [heq]
      exact List.mem_append_right before List.mem_cons_self
    obtain ⟨hp, hi⟩ := mem_unchosen_iff.mp hmem
    refine ⟨hinsert.symm, hi, fun k hk hnot => ?_, by rwa [parseBranch_of_getElem? hp]⟩
    -- a branch that is left and comes earlier stands in front of the one that is settled
    have hlt : k < branches.length := hk.trans (List.getElem?_eq_some_iff.mp hp).1
    have hget : branches[k]? = some branches[k] := List.getElem?_eq_getElem hlt
    have hleft : (branches[k], k) ∈ before ++ (p, i) :: after := by
      rw [← heq]
      exact mem_unchosen_iff.mpr ⟨hget, hnot⟩
    rw [parseBranch_of_getElem? hget]
    rcases List.mem_append.mp hleft with hmem | hmem
    · exact hfails _ hmem
    · rcases List.mem_cons.mp hmem with heq' | hmem
      · rw [Prod.mk.injEq] at heq'
        omega
      · exact absurd (hafter _ hmem) (Nat.lt_asymm hk)
  · intro hout
    rcases hout with ⟨rfl, hi, hfails, haccepts⟩
    obtain ⟨p, hp⟩ := exists_getElem?_of_accepts_parseBranch haccepts
    rw [parseBranch_of_getElem? hp] at haccepts
    obtain ⟨before, after, heq⟩ := List.append_of_mem (mem_unchosen_iff.mpr ⟨hp, hi⟩)
    obtain ⟨hinsert, hbefore, -⟩ := unchosen_insert_of_eq heq
    refine ⟨before, p, after, heq, hinsert, fun entry hentry => ?_, haccepts⟩
    have hmem : entry ∈ unchosen branches chosen := by
      rw [heq]
      exact List.mem_append_left _ hentry
    obtain ⟨hq, hk⟩ := mem_unchosen_iff.mp hmem
    rw [← parseBranch_of_getElem? hq]
    exact hfails entry.2 (hbefore entry hentry) hk

/-- A pass settles nothing if every branch that is left fails. -/
lemma accepts_none_pass_iff (horderly : ∀ p ∈ branches, p.parse.Orderly) :
    (settleOne (unchosen branches chosen)).Accepts c none c' ↔
      c' = c ∧ ∀ i < branches.length, i ∉ chosen → (parseBranch branches i).Fails c := by
  rw [accepts_none_settleOne_iff (orderly_unchosen horderly)]
  refine and_congr_right fun _ => ⟨fun h i hi hnot => ?_, fun h entry hentry => ?_⟩
  · have hget : branches[i]? = some branches[i] := List.getElem?_eq_getElem hi
    rw [parseBranch_of_getElem? hget]
    exact h (branches[i], i) (mem_unchosen_iff.mpr ⟨hget, hnot⟩)
  · obtain ⟨hget, hnot⟩ := mem_unchosen_iff.mp hentry
    rw [← parseBranch_of_getElem? hget]
    exact h entry.2 (List.getElem?_eq_some_iff.mp hget).1 hnot

lemma length_unchosen_insert {i : ℕ} (hi : i < branches.length) (hnot : i ∉ chosen) :
    (unchosen branches chosen).length = (unchosen branches (insert i chosen)).length + 1 := by
  have hget : branches[i]? = some branches[i] := List.getElem?_eq_getElem hi
  obtain ⟨before, after, heq⟩ := List.append_of_mem (mem_unchosen_iff.mpr ⟨hget, hnot⟩)
  rw [(unchosen_insert_of_eq heq).1, heq]
  simp only [List.length_append, List.length_cons]
  omega

/-! ## All passes -/

/-- The passes succeed if the schedule chooses every branch that is left. -/
lemma accepts_settle_iff (horderly : ∀ p ∈ branches, p.parse.Orderly) {count : ℕ}
    (hcount : (unchosen branches chosen).length = count) {choices : List (ℕ × α)} :
    (settle count (unchosen branches chosen)).Accepts c choices c' ↔
      Schedule branches chosen c choices c' ∧ choices.length = count := by
  -- one pass for each branch that is left: when none is, the schedule has to stop
  induction count generalizing chosen c choices with
  | zero =>
    rw [settle, Parse.accepts_pure_iff]
    constructor
    · intro hout
      rcases hout with ⟨rfl, rfl⟩
      refine ⟨.stop fun i hi hnot => ?_, rfl⟩
      rw [length_unchosen_insert hi hnot] at hcount
      omega
    · intro hout
      obtain ⟨h, hlength⟩ := hout
      obtain rfl := List.length_eq_zero_iff.mp hlength
      cases h
      exact ⟨rfl, rfl⟩
  | succ count ih =>
    rw [settle, Parse.accepts_bind_iff]
    constructor
    · intro hout
      rcases hout with ⟨_ | ⟨⟨i, a⟩, others⟩, c₁, hpass, h⟩
      · exact absurd h Parse.not_accepts_fail
      · obtain ⟨rfl, hi, hbefore, haccepts⟩ := (accepts_some_pass_iff horderly).mp hpass
        obtain ⟨later, c₂, hlater, h⟩ := Parse.accepts_bind_iff.mp h
        obtain ⟨rfl, rfl⟩ := Parse.accepts_pure_iff.mp h
        have hlength := length_unchosen_insert (lt_of_accepts_parseBranch haccepts) hi
        obtain ⟨hrest, hcount'⟩ := (ih (by omega)).mp hlater
        exact ⟨.choose hi hbefore haccepts hrest, by rw [List.length_cons, hcount']⟩
    · intro hout
      obtain ⟨h, hlength⟩ := hout
      cases h with
      | stop => simp at hlength
      | @choose _ _ c₁ _ i a choices hi hbefore haccepts hrest =>
        have hlength' := length_unchosen_insert (lt_of_accepts_parseBranch haccepts) hi
        have hpass := (accepts_some_pass_iff horderly).mpr ⟨rfl, hi, hbefore, haccepts⟩
        have hlater := (ih (by omega)).mpr ⟨hrest, by simpa using hlength⟩
        exact ⟨_, c₁, hpass, hlater.bind (Parse.accepts_pure_iff.mpr ⟨rfl, rfl⟩)⟩

/-- The passes fail where the schedule stops if it leaves a branch out. -/
lemma rejects_settle_iff (horderly : ∀ p ∈ branches, p.parse.Orderly) {count : ℕ}
    (hcount : (unchosen branches chosen).length = count) {e : ParseError} :
    (settle count (unchosen branches chosen)).Rejects c e c' ↔
      ∃ choices, Schedule branches chosen c choices c' ∧ choices.length < count
        ∧ e = c'.unexpectedSymbol "one of the remaining patterns" := by
  induction count generalizing chosen c with
  | zero =>
    rw [settle]
    constructor
    · exact fun h => absurd h Parse.not_rejects_pure
    · intro hout
      obtain ⟨choices, _, hlt, _⟩ := hout
      exact absurd hlt (Nat.not_lt_zero _)
  | succ count ih =>
    rw [settle, Parse.rejects_bind_iff]
    constructor
    · intro hout
      rcases hout with h | ⟨_ | ⟨⟨i, a⟩, others⟩, c₁, hpass, h⟩
      · exact absurd h not_rejects_settleOne
      · -- a pass without a success is where the schedule stops
        obtain ⟨rfl, hfails⟩ := (accepts_none_pass_iff horderly).mp hpass
        obtain ⟨rfl, rfl⟩ := h.unique (Parse.rejects_fail _ _)
        exact ⟨[], .stop hfails, Nat.zero_lt_succ count, rfl⟩
      · obtain ⟨rfl, hi, hbefore, haccepts⟩ := (accepts_some_pass_iff horderly).mp hpass
        have hlength := length_unchosen_insert (lt_of_accepts_parseBranch haccepts) hi
        rcases Parse.rejects_bind_iff.mp h with h | ⟨later, c₂, -, h⟩
        · obtain ⟨choices, hrest, hlt, rfl⟩ := (ih (by omega)).mp h
          exact ⟨_, .choose hi hbefore haccepts hrest, Nat.succ_lt_succ hlt, rfl⟩
        · exact absurd h Parse.not_rejects_pure
    · intro hout
      rcases hout with ⟨choices, h, hlt, rfl⟩
      cases h with
      | stop hstop =>
        exact Or.inr ⟨none, c', (accepts_none_pass_iff horderly).mpr ⟨rfl, hstop⟩,
          Parse.rejects_fail _ c'⟩
      | @choose _ _ c₁ _ i a choices hi hbefore haccepts hrest =>
        have hlength := length_unchosen_insert (lt_of_accepts_parseBranch haccepts) hi
        have hpass := (accepts_some_pass_iff horderly).mpr ⟨rfl, hi, hbefore, haccepts⟩
        have hlater := (ih (by omega)).mpr ⟨choices, hrest, Nat.lt_of_succ_lt_succ hlt, rfl⟩
        exact Or.inr ⟨_, c₁, hpass, hlater.bind _⟩

end Unchosen

/-! ## Values in the order of declaration -/

lemma filterMap_range_getElem? (values : List α) :
    (List.range values.length).filterMap (fun i => values[i]?) = values := by
  induction values using List.reverseRecOn with
  | nil => rfl
  | append_singleton values a ih =>
    rw [List.length_append, List.length_singleton, List.range_succ, List.filterMap_append]
    have hleft : (List.range values.length).filterMap (fun i => (values ++ [a])[i]?) = values := by
      rw [List.filterMap_congr fun i hi => ?_, ih]
      exact List.getElem?_append_left (List.mem_range.mp hi)
    rw [hleft]
    simp

/-- The values that are put in place are the values that were chosen. -/
lemma eq_inPlace_iff {choices : List (ℕ × α)} {n : ℕ}
    (hnodup : (choices.map Prod.fst).Nodup) (hrange : ∀ choice ∈ choices, choice.1 < n)
    (hlength : choices.length = n) {values : List α} :
    values = inPlace n choices ↔
      values.length = n ∧ ∀ choice ∈ choices, values[choice.1]? = some choice.2 := by
  -- a list is determined by its values at all places
  have hput : ∀ values : List α, values.length = n →
      (∀ choice ∈ choices, values[choice.1]? = some choice.2) → values = inPlace n choices := by
    intro values hn hvalues
    rw [inPlace, ← filterMap_range_getElem? values, hn]
    refine List.filterMap_congr fun i hi => ?_
    obtain ⟨a, ha⟩ := exists_mem_of_length_eq hnodup hrange hlength (List.mem_range.mp hi)
    rw [lookup_eq_some_of_mem hnodup ha, hvalues (i, a) ha]
  constructor
  · -- there is a list with the chosen values, and it is the one put in place
    intro heq
    subst heq
    have hall : ∀ i : Fin n, ∃ a, (i.val, a) ∈ choices :=
      fun i => exists_mem_of_length_eq hnodup hrange hlength i.isLt
    choose value hvalue using hall
    have hvalues : ∀ choice ∈ choices, (List.ofFn value)[choice.1]? = some choice.2 := by
      intro choice hchoice
      have hi := hrange choice hchoice
      rw [List.getElem?_ofFn, dif_pos hi, ← lookup_eq_some_of_mem hnodup hchoice]
      exact (lookup_eq_some_of_mem hnodup (hvalue ⟨choice.1, hi⟩)).symm
    rw [← hput (List.ofFn value) List.length_ofFn hvalues]
    exact ⟨List.length_ofFn, hvalues⟩
  · intro ⟨hn, hvalues⟩
    exact hput values hn hvalues

/-- If every place has been chosen, the value at a place is the one that was chosen there. -/
lemma mem_choices_of_getElem? {choices : List (ℕ × α)} {values : List α}
    (hnodup : (choices.map Prod.fst).Nodup) (hrange : ∀ choice ∈ choices, choice.1 < values.length)
    (hlength : choices.length = values.length)
    (hvalues : ∀ choice ∈ choices, values[choice.1]? = some choice.2) {i : ℕ} {a : α}
    (hi : values[i]? = some a) : (i, a) ∈ choices := by
  have hlt : i < values.length := (List.getElem?_eq_some_iff.mp hi).1
  obtain ⟨b, hb⟩ := exists_mem_of_length_eq hnodup hrange hlength hlt
  obtain rfl : a = b := Option.some.inj (hi.symm.trans (hvalues _ hb))
  exact hb

/-! ## Any order -/

section AnyOrder

variable {branches : List (Parser α)} {c c' : Cursor}

/-- Branches in any order succeed if the schedule chooses all of them. -/
theorem accepts_unordered_iff (horderly : ∀ p ∈ branches, p.parse.Orderly) {values : List α} :
    (unordered branches).parse.Accepts c values c' ↔
      ∃ choices, Schedule branches ∅ c choices c' ∧ choices.length = branches.length
        ∧ values.length = branches.length
        ∧ ∀ choice ∈ choices, values[choice.1]? = some choice.2 := by
  -- nothing has been chosen at first, so all branches are left
  have hcount : (unchosen branches ∅).length = branches.length := by
    rw [unchosen_empty, List.length_zipIdx]
  have hsettle := @accepts_settle_iff α branches ∅ c c' horderly branches.length hcount
  rw [unchosen_empty] at hsettle
  show Parse.Accepts (settle branches.length branches.zipIdx >>= _) c values c' ↔ _
  rw [Parse.accepts_bind_iff]
  constructor
  · intro ⟨choices, c₁, h, hpure⟩
    obtain ⟨hvalues, rfl⟩ := Parse.accepts_pure_iff.mp hpure
    obtain ⟨hschedule, hlength⟩ := hsettle.mp h
    have hrange : ∀ choice ∈ choices, choice.1 < branches.length :=
      fun choice hchoice => (hschedule.mem_range choice hchoice).1
    exact ⟨choices, hschedule, hlength,
      (eq_inPlace_iff hschedule.nodup_places hrange hlength).mp hvalues⟩
  · intro ⟨choices, hschedule, hlength, hvalues⟩
    have hrange : ∀ choice ∈ choices, choice.1 < branches.length :=
      fun choice hchoice => (hschedule.mem_range choice hchoice).1
    refine ⟨choices, c', hsettle.mpr ⟨hschedule, hlength⟩, Parse.accepts_pure_iff.mpr ⟨?_, rfl⟩⟩
    exact (eq_inPlace_iff hschedule.nodup_places hrange hlength).mpr hvalues

/-- Branches in any order fail where the schedule stops if it leaves one out. -/
theorem rejects_unordered_iff (horderly : ∀ p ∈ branches, p.parse.Orderly) {e : ParseError} :
    (unordered branches).parse.Rejects c e c' ↔
      ∃ choices, Schedule branches ∅ c choices c' ∧ choices.length < branches.length
        ∧ e = c'.unexpectedSymbol "one of the remaining patterns" := by
  have hcount : (unchosen branches ∅).length = branches.length := by
    rw [unchosen_empty, List.length_zipIdx]
  have hsettle := @rejects_settle_iff α branches ∅ c c' horderly branches.length hcount
  rw [unchosen_empty] at hsettle
  show Parse.Rejects (settle branches.length branches.zipIdx >>= _) c e c' ↔ _
  rw [Parse.rejects_bind_iff, ← hsettle]
  constructor
  · intro hout
    rcases hout with h | ⟨choices, c₁, -, h⟩
    · exact h
    · exact absurd h Parse.not_rejects_pure
  · exact Or.inl

lemma fails_unordered_iff (horderly : ∀ p ∈ branches, p.parse.Orderly) :
    (unordered branches).parse.Fails c ↔
      ∃ choices c', Schedule branches ∅ c choices c' ∧ choices.length < branches.length := by
  constructor
  · intro ⟨e, c', h⟩
    obtain ⟨choices, hschedule, hlt, -⟩ := (rejects_unordered_iff horderly).mp h
    exact ⟨choices, c', hschedule, hlt⟩
  · intro ⟨choices, c', hschedule, hlt⟩
    exact ⟨_, c', (rejects_unordered_iff horderly).mpr ⟨choices, hschedule, hlt, rfl⟩⟩

end AnyOrder

/-! ## Where the values come from -/

section Source

variable {branches : List (Parser α)} {pending others : List (Pending α)} {c c' : Cursor}

/-- A pass settles one pending branch with a value that this branch read, orderly or not. -/
lemma exists_source_of_accepts_settleOne {i : ℕ} {a : α}
    (h : (settleOne pending).Accepts c (some ((i, a), others)) c') :
    ∃ before p after, pending = before ++ (p, i) :: after ∧ others = before ++ after
      ∧ ∃ d d', p.parse.Accepts d a d' := by
  induction pending generalizing c c' others with
  | nil => simp [settleOne] at h
  | cons entry pending ih =>
    obtain ⟨p, place⟩ := entry
    rw [settleOne, Parse.accepts_bind_iff] at h
    obtain ⟨_ | value, c₁, hfound, h⟩ := h
    · obtain ⟨_ | ⟨settled, left⟩, c₂, hlater, h⟩ := Parse.accepts_bind_iff.mp h
      · simp at h
      · obtain ⟨heq, rfl⟩ := Parse.accepts_pure_iff.mp h
        simp only [Option.some.injEq, Prod.mk.injEq] at heq
        obtain ⟨rfl, rfl⟩ := heq
        obtain ⟨before, q, after, rfl, rfl, hq⟩ := ih hlater
        exact ⟨(p, place) :: before, q, after, rfl, rfl, hq⟩
    · obtain ⟨heq, rfl⟩ := Parse.accepts_pure_iff.mp h
      simp only [Option.some.injEq, Prod.mk.injEq] at heq
      obtain ⟨⟨rfl, rfl⟩, rfl⟩ := heq
      exact ⟨[], p, others, rfl, rfl, Parse.exists_accepts_of_accepts_tentatively hfound⟩

/-- All passes together settle every pending branch once. -/
lemma source_of_accepts_settle {count : ℕ} (hcount : pending.length = count)
    {choices : List (ℕ × α)} (h : (settle count pending).Accepts c choices c') :
    (choices.map Prod.fst).Perm (pending.map Prod.snd) ∧
      ∀ i a, (i, a) ∈ choices → ∃ p, (p, i) ∈ pending ∧ ∃ d d', p.parse.Accepts d a d' := by
  induction count generalizing pending c choices with
  | zero =>
    obtain rfl := List.length_eq_zero_iff.mp hcount
    obtain ⟨rfl, -⟩ := Parse.accepts_pure_iff.mp h
    exact ⟨List.Perm.refl _, fun i a hmem => absurd hmem List.not_mem_nil⟩
  | succ count ih =>
    rw [settle, Parse.accepts_bind_iff] at h
    obtain ⟨_ | ⟨⟨i, a⟩, others⟩, c₁, hpass, h⟩ := h
    · exact absurd h Parse.not_accepts_fail
    · obtain ⟨later, c₂, hlater, h⟩ := Parse.accepts_bind_iff.mp h
      obtain ⟨rfl, rfl⟩ := Parse.accepts_pure_iff.mp h
      obtain ⟨before, p, after, rfl, rfl, hp⟩ := exists_source_of_accepts_settleOne hpass
      have hothers : (before ++ after).length = count := by
        simp only [List.length_append, List.length_cons] at hcount ⊢
        omega
      obtain ⟨hperm, hsource⟩ := ih hothers hlater
      constructor
      · rw [List.map_append] at hperm
        rw [List.map_cons, List.map_append, List.map_cons]
        exact (hperm.cons i).trans List.perm_middle.symm
      · intro k b hmem
        rcases List.mem_cons.mp hmem with heq | hmem
        · obtain ⟨rfl, rfl⟩ := Prod.mk.inj heq
          exact ⟨p, List.mem_append_right _ List.mem_cons_self, hp⟩
        · obtain ⟨q, hq, hread⟩ := hsource k b hmem
          refine ⟨q, ?_, hread⟩
          rw [List.mem_append] at hq
          exact List.mem_append.mpr (hq.imp_right (List.mem_cons_of_mem _))

/-- Branches in any order give one value each, and each value was read by the branch at its place.
This holds of all branches, orderly or not. -/
theorem source_of_accepts_unordered {values : List α}
    (h : (unordered branches).parse.Accepts c values c') :
    values.length = branches.length ∧
      ∀ i a, values[i]? = some a → ∃ d d', (parseBranch branches i).Accepts d a d' := by
  obtain ⟨choices, c₁, hsettle, hpure⟩ := Parse.accepts_bind_iff.mp h
  obtain ⟨hvalues, -⟩ := Parse.accepts_pure_iff.mp hpure
  obtain ⟨hperm, hsource⟩ := source_of_accepts_settle List.length_zipIdx hsettle
  rw [List.zipIdx_map_snd] at hperm
  -- so the choices are of the places below the number of branches, each once
  have hnodup : (choices.map Prod.fst).Nodup := hperm.nodup_iff.mpr List.nodup_range'
  have hrange : ∀ choice ∈ choices, choice.1 < branches.length := by
    intro choice hchoice
    have hmem := hperm.mem_iff.mp (List.mem_map_of_mem hchoice)
    rw [List.mem_range'_1] at hmem
    omega
  have hlength : choices.length = branches.length := by
    have hcount := hperm.length_eq
    rwa [List.length_map, List.length_range'] at hcount
  obtain ⟨hcount, hplaces⟩ := (eq_inPlace_iff hnodup hrange hlength).mp hvalues
  refine ⟨hcount, fun i a hi => ?_⟩
  rw [← hcount] at hrange hlength
  obtain ⟨p, hp, hread⟩ :=
    hsource i a (mem_choices_of_getElem? hnodup hrange hlength hplaces hi)
  rw [List.mk_mem_zipIdx_iff_getElem?] at hp
  rwa [parseBranch_of_getElem? hp]

end Source

/-! ## Where a schedule ends -/

section Ends

variable {branches : List (Parser α)} (horderly : ∀ p ∈ branches, p.parse.Orderly)
  {chosen : Finset ℕ} {c c' : Cursor}

include horderly

lemma exists_past_of_accepts_parseBranch {i : ℕ} {a : α}
    (h : (parseBranch branches i).Accepts c a c') : ∃ t, t <+: c.ahead ∧ c' = c.past t := by
  obtain ⟨p, hp⟩ := exists_getElem?_of_accepts_parseBranch h
  rw [parseBranch_of_getElem? hp] at h
  exact (horderly p (List.mem_of_getElem? hp)).exists_past_of_accepts h

/-- A schedule reads on, from choice to choice. -/
lemma Schedule.exists_past {choices : List (ℕ × α)}
    (h : Schedule branches chosen c choices c') : ∃ t, t <+: c.ahead ∧ c' = c.past t := by
  induction h with
  | stop => exact ⟨[], List.nil_prefix, rfl⟩
  | choose _ _ haccepts _ ih =>
    obtain ⟨s, hs, rfl⟩ := exists_past_of_accepts_parseBranch horderly haccepts
    obtain ⟨t, ht, rfl⟩ := ih
    exact ⟨s ++ t, Cursor.append_prefix_ahead hs ht, Cursor.past_past _ s t⟩

/-- Each choice of a schedule is read somewhere in the text ahead. -/
lemma Schedule.exists_read {choices : List (ℕ × α)}
    (h : Schedule branches chosen c choices c') :
    ∀ choice ∈ choices, ∃ t u, t ++ u <+: c.ahead ∧
      (parseBranch branches choice.1).Accepts (c.past t) choice.2 (c.past (t ++ u)) := by
  induction h with
  | stop => exact List.forall_mem_nil _
  | choose _ _ haccepts _ ih =>
    obtain ⟨s, hs, rfl⟩ := exists_past_of_accepts_parseBranch horderly haccepts
    refine List.forall_mem_cons.mpr ⟨⟨[], s, hs, haccepts⟩, fun choice hchoice => ?_⟩
    obtain ⟨t, u, hu, hread⟩ := ih choice hchoice
    rw [Cursor.past_past, Cursor.past_past, ← List.append_assoc] at hread
    exact ⟨s ++ t, u, List.append_assoc s t u ▸ Cursor.append_prefix_ahead hs hu, hread⟩

/-- The values of branches in any order are read from the text ahead. -/
lemma exists_read_of_accepts_unordered {values : List α}
    (h : (unordered branches).parse.Accepts c values c') {i : ℕ} {a : α}
    (hi : values[i]? = some a) :
    ∃ t u, t ++ u <+: c.ahead ∧
      (parseBranch branches i).Accepts (c.past t) a (c.past (t ++ u)) := by
  obtain ⟨choices, hschedule, hcount, hlength, hvalues⟩ := (accepts_unordered_iff horderly).mp h
  have hrange : ∀ choice ∈ choices, choice.1 < values.length := by
    intro choice hchoice
    rw [hlength]
    exact (hschedule.mem_range choice hchoice).1
  exact hschedule.exists_read horderly _
    (mem_choices_of_getElem? hschedule.nodup_places hrange (hcount.trans hlength.symm) hvalues hi)

/-- There is a schedule if every branch gives a reply wherever it may be run. -/
theorem Schedule.exists_of_replies
    (hreplies : ∀ t, t <+: c.ahead → ∀ p ∈ branches, ∃ reply, p.parse (c.past t) = .ok reply) :
    ∃ choices c', Schedule branches chosen c choices c' := by
  -- the induction is on the number of branches that are left
  induction hcount : (unchosen branches chosen).length using Nat.strongRecOn
    generalizing chosen c with
  | _ count ih =>
    have hreply : ∀ i < branches.length, ∃ reply, parseBranch branches i c = .ok reply := by
      intro i hi
      rw [parseBranch_of_getElem? (List.getElem?_eq_getElem hi)]
      exact hreplies [] List.nil_prefix branches[i] (List.getElem_mem hi)
    classical
    by_cases hany : ∃ i, i ∉ chosen ∧ ∃ a c₁, (parseBranch branches i).Accepts c a c₁
    · -- the least place of a branch that succeeds is chosen
      obtain ⟨hnot, a, c₁, haccepts⟩ := Nat.find_spec hany
      have hi := lt_of_accepts_parseBranch haccepts
      have hbefore : ∀ k < Nat.find hany, k ∉ chosen → (parseBranch branches k).Fails c :=
        fun k hk hfresh => Parse.fails_of_reply (hreply k (hk.trans hi)) fun b d hb =>
          Nat.find_min hany hk ⟨hfresh, b, d, hb⟩
      obtain ⟨t, ht, rfl⟩ := exists_past_of_accepts_parseBranch horderly haccepts
      have hlater := Cursor.forall_past_of_prefix
        (fun d => ∀ p ∈ branches, ∃ reply, p.parse d = .ok reply) hreplies ht
      have hfewer : (unchosen branches (insert (Nat.find hany) chosen)).length < count := by
        rw [← hcount, length_unchosen_insert hi hnot]
        exact Nat.lt_succ_self _
      obtain ⟨choices, c', hrest⟩ := ih _ hfewer hlater rfl
      exact ⟨_, c', .choose hnot hbefore haccepts hrest⟩
    · refine ⟨[], c, .stop fun i hi hnot => ?_⟩
      exact Parse.fails_of_reply (hreply i hi) fun a c₁ ha => hany ⟨i, hnot, a, c₁, ha⟩

end Ends

end Parlance.Parser

namespace Parlance

lemma Grammar.parser_unordered (rules : Rules) (gs : List Grammar) :
    (Grammar.unordered gs).parser rules
      = (Parser.unordered (gs.map (Grammar.parser rules))).convert .list := by
  show Grammar.parserWith rules.run (.unordered gs) = _
  rw [Grammar.parserWith, Grammar.parsersWith_eq_map]
  rfl

/-- Grammars in any order follow the greedy schedule from every cursor. There is one schedule at
most. If it chooses every branch, each value is the one its branch had when it was chosen, and the
cursor is where the last choice left it. If not, the error is made where the last choice left the
cursor, and the cursor stays there. -/
theorem Grammar.unordered_follows_schedule (rules : Rules) (grammars : List Grammar)
    (c c' : Cursor) :
    let branches := grammars.map (Grammar.parser rules)
    (∀ values, (Parser.unordered branches).parse.Accepts c values c' ↔
      ∃ choices, Parser.Schedule branches ∅ c choices c' ∧ choices.length = grammars.length
        ∧ values.length = grammars.length
        ∧ ∀ i a, (i, a) ∈ choices → values[i]? = some a) ∧
    (∀ e, (Parser.unordered branches).parse.Rejects c e c' ↔
      ∃ choices, Parser.Schedule branches ∅ c choices c' ∧ choices.length < grammars.length
        ∧ e = c'.unexpectedSymbol "one of the remaining patterns") ∧
    (∀ choices₁ choices₂ c₁ c₂, Parser.Schedule branches ∅ c choices₁ c₁ →
      Parser.Schedule branches ∅ c choices₂ c₂ → choices₁ = choices₂ ∧ c₁ = c₂) := by
  intro branches
  have horderly : ∀ p ∈ branches, p.parse.Orderly := Grammar.orderly_branches rules grammars
  have hlength : branches.length = grammars.length := List.length_map _
  refine ⟨fun values => ?_, fun e => ?_, fun _ _ _ _ h₁ h₂ => h₁.unique h₂⟩
  · rw [Parser.accepts_unordered_iff horderly, ← hlength]
    simp only [Prod.forall]
  · rw [Parser.rejects_unordered_iff horderly, ← hlength]

end Parlance
