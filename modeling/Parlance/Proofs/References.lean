import Parlance.Proofs.Agreement
import Mathlib.Data.Finset.Card
import Mathlib.Tactic.Ring

/-!
# References to rules

A rule is run with a limited depth of references inside one another. The limit is never felt: a rule
that is referred to is parsed as its grammar says, with the same rules for its own references
(`Rules.run_eq_parse`).

What has to be shown is that a rule which has given up at the depth that is chosen for it gives up at
every depth. The induction is on the room of a cursor, which shrinks whenever a symbol is read or a
verbatim token is entered. Among cursors with the same room, those that a parse gets to are near one
another, so only finitely many rules can be told apart there. With each further reference some of
them have to come to an answer, or none ever will (`Rules.exists_depth_of_room`).
-/

namespace Parlance

/-! ## Room -/

namespace Cursor

variable {c₀ c d e : Cursor}

/-- The symbols ahead, counted once for each way to skip blanks in front of them. -/
def room (c : Cursor) : ℕ := 2 * c.ahead.length - if c.isVerbatim then 1 else 0

lemma Near.trans (hcd : c.Near d) (hde : d.Near e) : c.Near e := by
  refine ⟨hcd.place_eq.trans hde.place_eq, ?_⟩
  rcases hcd.skips_eq with hend | hskips
  · exact Or.inl hend
  · exact hde.skips_eq.imp (fun hend => hcd.ahead_eq.trans hend) hskips.trans

/-- Where a parse gets to, there is less room or nothing has changed that matters. -/
lemma Reaches.room_lt_or_near (h : c₀.Reaches c) : c.room < c₀.room ∨ c₀.Near c := by
  obtain ⟨t, ⟨rest, hrest⟩, hplace⟩ := h.place_eq
  have hahead : c.ahead = rest := by
    rw [← ahead_past_of_eq hrest.symm]
    exact congrArg Place.ahead hplace
  have hlength : c₀.ahead.length = t.length + rest.length := by
    rw [← hrest, List.length_append]
  cases t with
  | cons x t =>
    -- one symbol counts for more than both ways to skip blanks
    refine Or.inl ?_
    unfold room
    rw [hahead, hlength, List.length_cons]
    split <;> split <;> omega
  | nil =>
    have hnear : c₀.isVerbatim = c.isVerbatim → c₀.Near c := fun heq => ⟨hplace.symm, Or.inr heq⟩
    cases hverbatim : c₀.isVerbatim with
    | true => exact Or.inr (hnear (by rw [hverbatim, h.isVerbatim hverbatim]))
    | false =>
      cases hverbatim' : c.isVerbatim with
      | false => exact Or.inr (hnear (by rw [hverbatim, hverbatim']))
      | true =>
        -- a verbatim token has been entered, which only matters in front of a symbol
        cases rest with
        | nil => exact Or.inr ⟨hplace.symm, Or.inl (by rw [← hrest]; rfl)⟩
        | cons x rest =>
          refine Or.inl ?_
          unfold room
          rw [hahead, hlength, hverbatim, hverbatim', List.length_cons, List.length_nil]
          simp only [if_true, Bool.false_eq_true, if_false]
          omega

/-- A parse stays in its text. -/
lemma Reaches.source_eq (h : c₀.Reaches c) : c.place.source = c₀.place.source := by
  obtain ⟨t, ⟨rest, hrest⟩, hplace⟩ := h.place_eq
  have hrest : c₀.place.ahead = t ++ rest := hrest.symm
  rw [hplace]
  unfold Place.source Place.past
  rw [hrest, List.drop_left, List.reverse_append, List.reverse_reverse, List.append_assoc]

end Cursor

/-- Sets that become smaller from one step to the next, with no more than `n` elements to begin with,
stay the same at one of the first steps. -/
lemma exists_eq_succ_of_subset {α : Type} {S : ℕ → Finset α} {n : ℕ}
    (hS : ∀ i, S (i + 1) ⊆ S i) (hcard : (S 0).card ≤ n) : ∃ i, i ≤ n ∧ S (i + 1) = S i := by
  by_contra hne
  push Not at hne
  have hshrinks : ∀ i, i ≤ n + 1 → (S i).card + i ≤ n := by
    intro i
    induction i with
    | zero => exact fun _ => hcard
    | succ i ih =>
      intro hi
      have hlt := Finset.card_lt_card (Finset.ssubset_iff_subset_ne.mpr ⟨hS i, hne i (by omega)⟩)
      have hle := ih (by omega)
      omega
  have hlast := hshrinks (n + 1) (Nat.le_refl _)
  omega

namespace Rules

open Parse (Agree)

variable {rules : Rules} {lax : Prop} {c₀ : Cursor}

/-! ## Depths that agree -/

/-- With one more reference, two depths that agree still do. -/
lemma agree_succ {depth depth' : ℕ}
    (h : ∀ name, Agree lax c₀ Value (rules.runWithin depth name) (rules.runWithin depth' name))
    (name : String) :
    Agree lax c₀ Value (rules.runWithin (depth + 1) name) (rules.runWithin (depth' + 1) name) := by
  unfold runWithin
  cases List.lookup name rules with
  | none => exact fun _ _ _ => .fault _
  | some g => exact Grammar.agree_parserWith h g

lemma agree_self (depth : ℕ) (name : String) :
    Agree False c₀ Value (rules.runWithin depth name) (rules.runWithin depth name) := by
  induction depth generalizing name with
  | zero => exact fun _ _ _ => .fault _
  | succ depth ih => exact agree_succ ih name

/-- With more depth the answer is the same, unless the rule gives up with less. -/
lemma agree_of_le {depth depth' : ℕ} (h : depth ≤ depth') (name : String) :
    Agree True c₀ Value (rules.runWithin depth name) (rules.runWithin depth' name) := by
  induction depth generalizing depth' name with
  | zero => exact fun _ _ _ => .endless _ trivial
  | succ depth ih =>
    obtain ⟨depth', rfl⟩ := Nat.exists_eq_succ_of_ne_zero (Nat.ne_zero_of_lt h)
    exact agree_succ (fun name => ih (Nat.le_of_succ_le_succ h) name) name

lemma agree_trans {p q r : Parse Value} (hpq : Agree False c₀ Value p q)
    (hqr : Agree False c₀ Value q r) : Agree False c₀ Value p r := by
  intro c d hcd
  rw [(hpq c c ⟨hcd.reaches, .refl c⟩).eq]
  exact hqr c d hcd

/-! ## Rules that give up -/

/-- The rules that give up when they are run from `c` with that depth. -/
def endless (rules : Rules) (c : Cursor) (depth : ℕ) : Finset String :=
  (rules.map Prod.fst).toFinset.filter fun name =>
    rules.runWithin depth name c = .error .endlessRecursion

lemma card_endless_le (c : Cursor) (depth : ℕ) : (rules.endless c depth).card ≤ rules.length := by
  calc (rules.endless c depth).card
      ≤ (rules.map Prod.fst).toFinset.card := Finset.card_filter_le _ _
    _ ≤ (rules.map Prod.fst).length := List.toFinset_card_le _
    _ = rules.length := List.length_map _

lemma mem_endless_iff {depth : ℕ} (hdepth : 0 < depth) {c : Cursor} {name : String} :
    name ∈ rules.endless c depth
      ↔ rules.runWithin depth name c = .error .endlessRecursion := by
  unfold endless
  rw [Finset.mem_filter, List.mem_toFinset]
  refine and_iff_right_of_imp fun hend => ?_
  -- a name that is not that of a rule is found out at once
  by_contra hname
  have hnone : List.lookup name rules = none := by
    refine List.lookup_eq_none_iff.mpr fun rule hrule => ?_
    have hne : name ≠ rule.1 := fun heq => hname (List.mem_map.mpr ⟨rule, hrule, heq.symm⟩)
    simpa using hne
  obtain ⟨depth, rfl⟩ := Nat.exists_eq_succ_of_ne_zero (Nat.ne_zero_of_lt hdepth)
  unfold runWithin at hend
  rw [hnone] at hend
  cases hend

lemma endless_succ_subset {depth : ℕ} (hdepth : 0 < depth) (c : Cursor) :
    rules.endless c (depth + 1) ⊆ rules.endless c depth := by
  intro name hname
  rw [mem_endless_iff (Nat.succ_pos depth)] at hname
  rw [mem_endless_iff hdepth]
  by_contra hne
  have hagree : Agreeing True c c (rules.runWithin depth name c)
      (rules.runWithin (depth + 1) name c) :=
    agree_of_le (Nat.le_succ depth) name c c (Cursor.Near.refl c).close
  exact hne ((hagree.strict hne).endless_iff.mpr hname)

/-- If there is nothing left to find out further on, and the same rules give up here with one more
reference, then that reference makes no difference. -/
lemma agree_succ_of_endless_eq {depth : ℕ} (hdepth : 0 < depth)
    (hless : ∀ c : Cursor, c.room < c₀.room → ∀ name,
      rules.runWithin depth name c = rules.runWithin (depth + 1) name c)
    (hsame : rules.endless c₀ (depth + 1) = rules.endless c₀ depth) (name : String) :
    Agree False c₀ Value (rules.runWithin depth name) (rules.runWithin (depth + 1) name) := by
  intro c d hcd
  rcases hcd.reaches.room_lt_or_near with hlt | hnear
  · rw [hless c hlt name]
    exact agree_self (depth + 1) name c d hcd.near.close
  · by_cases hend : rules.runWithin depth name c = .error .endlessRecursion
    · -- a rule that gives up at `c` does so at `c₀`, and then there and at `d` with more depth
      have hhere : rules.runWithin depth name c₀ = .error .endlessRecursion :=
        (agree_self depth name c₀ c hnear.close).endless_iff.mpr hend
      have hmore : rules.runWithin (depth + 1) name c₀ = .error .endlessRecursion := by
        rw [← mem_endless_iff (Nat.succ_pos depth), hsame, mem_endless_iff hdepth]
        exact hhere
      have hthere : rules.runWithin (depth + 1) name d = .error .endlessRecursion :=
        (agree_self (depth + 1) name c₀ d (hnear.trans hcd.near).close).endless_iff.mp hmore
      rw [hend, hthere]
      exact .fault _
    · exact (agree_of_le (Nat.le_succ depth) name c d hcd).strict hend

/-- If less room has been exhausted at some depth, then so has that of `c₀` after at most as many
further references as there are rules. -/
lemma exists_depth_of_room {depth : ℕ} (hdepth : 0 < depth)
    (hless : ∀ c : Cursor, c.room < c₀.room → ∀ more, depth ≤ more → ∀ name,
      rules.runWithin more name c = rules.runWithin depth name c) :
    ∃ enough, enough ≤ depth + rules.length ∧ ∀ more, enough ≤ more → ∀ name,
      rules.runWithin more name c₀ = rules.runWithin enough name c₀ := by
  obtain ⟨i, hi, hsame⟩ := exists_eq_succ_of_subset (S := fun i => rules.endless c₀ (depth + i))
    (fun i => endless_succ_subset (Nat.add_pos_left hdepth i) c₀) (card_endless_le c₀ depth)
  have hstep : ∀ name, Agree False c₀ Value (rules.runWithin (depth + i) name)
      (rules.runWithin (depth + i + 1) name) := by
    refine agree_succ_of_endless_eq (by omega) (fun c hc name => ?_) hsame
    rw [hless c hc (depth + i) (by omega), hless c hc (depth + i + 1) (by omega)]
  -- once a reference makes no difference, none of those inside it does
  have hall : ∀ j name, Agree False c₀ Value (rules.runWithin (depth + i) name)
      (rules.runWithin (depth + i + j) name) := by
    intro j
    induction j with
    | zero => exact agree_self (depth + i)
    | succ j ih => exact fun name => agree_trans (hstep name) (agree_succ ih name)
  refine ⟨depth + i, by omega, fun more hmore name => ?_⟩
  obtain ⟨j, rfl⟩ := Nat.exists_eq_add_of_le hmore
  exact (hall j name c₀ c₀ (Cursor.Near.refl c₀).close).eq.symm

/-- A depth of as many references as there are rules, for each of the rooms up to that of a cursor,
is as good as any greater one. -/
theorem runWithin_eq_of_room_lt {n : ℕ} {c : Cursor} (hc : c.room < n) {depth : ℕ}
    (hdepth : rules.length * n + 1 ≤ depth) (name : String) :
    rules.runWithin depth name c = rules.runWithin (rules.length * n + 1) name c := by
  induction n generalizing c depth name with
  | zero => exact absurd hc (Nat.not_lt_zero _)
  | succ n ih =>
    have hless : ∀ d : Cursor, d.room < c.room → ∀ more, rules.length * n + 1 ≤ more → ∀ name,
        rules.runWithin more name d = rules.runWithin (rules.length * n + 1) name d :=
      fun d hd more hmore name => ih (by omega) hmore name
    obtain ⟨enough, henough, hstable⟩ := exists_depth_of_room (Nat.succ_pos _) hless
    have hle : enough ≤ rules.length * (n + 1) + 1 := by
      rw [Nat.mul_succ]
      omega
    rw [hstable depth (Nat.le_trans hle hdepth) name, hstable _ hle name]

/-! ## Rules as their grammars -/

lemma depthFor_eq_of_reaches {c : Cursor} (h : c₀.Reaches c) :
    rules.depthFor c = rules.depthFor c₀ := by
  unfold depthFor
  rw [h.source_eq]

/-- The depth that is chosen at a cursor could be one less. -/
lemma runWithin_eq_run {c₀ c : Cursor} (h : c₀.Reaches c) (hrules : rules ≠ []) (name : String) :
    rules.runWithin (2 * rules.length * (c₀.place.source.length + 1)) name c
      = rules.run name c := by
  have hpos : 0 < rules.length := List.length_pos_iff.mpr hrules
  have hahead : c.ahead.length ≤ c₀.place.source.length := by
    rw [← h.source_eq]
    unfold Place.source
    rw [List.length_append]
    exact Nat.le_add_left _ _
  have hroom : c.room < 2 * c₀.place.source.length + 1 := by
    unfold Cursor.room
    omega
  -- one place more than the text has is counted, which pays for the first reference
  have henough : rules.length * (2 * c₀.place.source.length + 1) + 1
      ≤ 2 * rules.length * (c₀.place.source.length + 1) := by
    calc rules.length * (2 * c₀.place.source.length + 1) + 1
        ≤ rules.length * (2 * c₀.place.source.length + 1) + rules.length := by omega
      _ = 2 * rules.length * (c₀.place.source.length + 1) := by ring
  unfold run
  rw [depthFor_eq_of_reaches h]
  unfold depthFor
  rw [runWithin_eq_of_room_lt hroom henough,
    runWithin_eq_of_room_lt hroom (Nat.le_succ_of_le henough)]

/-- A rule is read as its grammar is parsed. -/
theorem run_eq_parse {name : String} {g : Grammar} (h : List.lookup name rules = some g) :
    rules.run name = (g.parser rules).parse := by
  have hrules : rules ≠ [] := by
    rintro rfl
    cases h
  funext c
  have hagree : ∀ other, Agree False c Value
      (rules.runWithin (2 * rules.length * (c.place.source.length + 1)) other)
      (rules.run other) := by
    intro other d e hde
    rw [runWithin_eq_run hde.reaches hrules]
    -- the depth that is chosen is the same at near cursors
    unfold run
    have hsource : rules.depthFor e = rules.depthFor d := by
      unfold depthFor
      rw [hde.near.place_eq]
    rw [hsource]
    exact agree_self _ other d e hde.near.close
  have hbody := (Grammar.agree_parserWith hagree g c c (Cursor.Near.refl c).close).eq
  unfold run depthFor
  unfold runWithin
  rw [h]
  exact hbody

end Rules

end Parlance
