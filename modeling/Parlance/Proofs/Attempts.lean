import Parlance.Proofs.Unordered

/-!
# How often branches in any order are tried

Every pass of `unordered` tries the pending branches from the first to the one that it settles, and
all of them if it settles none. So the number of attempts is a sum over the choices of the greedy
schedule (`passAttempts`), which is quadratic in the number of branches at most and never less than
the number of choices. To count attempts, every branch is metered: that adds the attempts to the
count of the reply and changes nothing else about it.
-/

namespace Parlance

/-! ## Attempts by passes -/

/-- How many attempts are made in all passes, if the places `pending` are left at first and the
places `settled` are settled one after the other: in every pass, one for the place that it settles
and one for each place before that, and in the last pass one for every place that is left. -/
def passAttempts (pending : List ℕ) : List ℕ → ℕ
  | [] => pending.length
  | place :: settled => pending.idxOf place + 1 + passAttempts (pending.erase place) settled

/-- Every pass that settles a place makes an attempt. -/
lemma length_le_passAttempts (pending settled : List ℕ) :
    settled.length ≤ passAttempts pending settled := by
  induction settled generalizing pending with
  | nil => exact Nat.zero_le _
  | cons place settled ih =>
    have hlater := ih (pending.erase place)
    rw [List.length_cons, passAttempts]
    omega

/-- A pass makes no more attempts than places are left, and the next pass has one place less. -/
lemma two_mul_passAttempts_le {pending settled : List ℕ} (hnodup : settled.Nodup)
    (hsubset : settled ⊆ pending) :
    2 * passAttempts pending settled ≤ pending.length * (pending.length + 1) := by
  induction settled generalizing pending with
  | nil =>
    rw [passAttempts]
    cases pending with
    | nil => exact Nat.le_refl _
    | cons place pending =>
      rw [List.length_cons, Nat.mul_comm]
      exact Nat.mul_le_mul_left _ (by omega)
  | cons place settled ih =>
    obtain ⟨hfresh, hnodup⟩ := List.nodup_cons.mp hnodup
    obtain ⟨hplace, hsubset⟩ := List.cons_subset.mp hsubset
    have hleft : settled ⊆ pending.erase place := by
      intro k hk
      have hne : k ≠ place := fun heq => hfresh (heq ▸ hk)
      exact (List.mem_erase_of_ne hne).mpr (hsubset hk)
    have hlater := ih hnodup hleft
    have hlt : pending.idxOf place < pending.length := List.idxOf_lt_length_of_mem hplace
    rw [List.length_erase_of_mem hplace] at hlater
    obtain ⟨count, hcount⟩ := Nat.exists_eq_succ_of_ne_zero (Nat.ne_zero_of_lt hlt)
    rw [hcount] at hlater hlt ⊢
    rw [passAttempts]
    calc 2 * (pending.idxOf place + 1 + passAttempts (pending.erase place) settled)
        = 2 * (pending.idxOf place + 1) + 2 * passAttempts (pending.erase place) settled :=
          Nat.mul_add _ _ _
      _ ≤ 2 * (count + 1) + count * (count + 1) := Nat.add_le_add (by omega) hlater
      _ = (count + 1) * (count + 1 + 1) := by
          rw [← Nat.add_mul, Nat.mul_comm, Nat.add_comm 2 count]

namespace Parse

variable {α : Type}

/-- What is tried is counted, whether it is taken back or not. -/
lemma Orderly.tentatively_counted {p : Parse α} (hp : p.Orderly) (c : Cursor) :
    p.counted.tentatively c
      = (p.tentatively c).map fun reply => { reply with attempts := reply.attempts + 1 } := by
  rw [tentatively_eq, tentatively_eq, hp.counted.speculate_eq, hp.speculate_eq, counted_eq]
  rcases p c with fault | ⟨e | a, c', n⟩ <;> rfl

end Parse

namespace Parser

variable {α : Type}

/-! ## One pass -/

section Pass

variable {p : Parser α} {place own : ℕ} {pending : List (Pending α)} {c c₁ : Cursor}

lemma settleOne_cons_error {fault : Fault} (h : p.parse.tentatively c = .error fault) :
    settleOne ((p, place) :: pending) c = .error fault := by
  rw [settleOne, Parse.bind_apply, h]

lemma settleOne_cons_some {a : α} (h : p.parse.tentatively c = .ok ⟨.ok (some a), c₁, own⟩) :
    settleOne ((p, place) :: pending) c = .ok ⟨.ok (some ((place, a), pending)), c₁, own⟩ := by
  rw [settleOne, Parse.bind_apply, h]
  rfl

/-- A branch that is passed over stays pending. -/
lemma settleOne_cons_none (h : p.parse.tentatively c = .ok ⟨.ok none, c₁, own⟩) :
    settleOne ((p, place) :: pending) c = (settleOne pending c₁).map fun reply =>
      ⟨reply.result.map (Option.map (Prod.map id (List.cons (p, place)))), reply.cursor,
        own + reply.attempts⟩ := by
  rw [settleOne, Parse.bind_apply, h]
  dsimp only
  rw [Parse.bind_apply]
  rcases settleOne pending c₁ with fault | ⟨e | _ | ⟨settled, others⟩, c₂, n⟩ <;> rfl

/-- Pending branches with their attempts counted. -/
def meteredAll (pending : List (Pending α)) : List (Pending α) :=
  pending.map (Prod.map metered id)

/-- The answer of a pass over `pending` and the answer of the same pass over metered branches, which
counts `own` attempts of the branches and those of the pass. -/
inductive MeteredPass (pending : List (Pending α)) :
    (plain counted : Except Fault (Reply (Option ((ℕ × α) × List (Pending α))))) → Prop
  | fault {f : Fault} : MeteredPass pending (.error f) (.error f)
  /-- If nothing is settled, every branch has been tried. -/
  | stalled {c : Cursor} {own n : ℕ} : n = own + pending.length →
    MeteredPass pending (.ok ⟨.ok none, c, own⟩) (.ok ⟨.ok none, c, n⟩)
  /-- If a branch is settled, it has been tried and so have those before it. -/
  | settled {before after : List (Pending α)} {p : Parser α} {i : ℕ} {a : α} {c : Cursor}
    {own n : ℕ} : pending = before ++ (p, i) :: after → n = own + (before.length + 1) →
    MeteredPass pending (.ok ⟨.ok (some ((i, a), before ++ after)), c, own⟩)
      (.ok ⟨.ok (some ((i, a), meteredAll (before ++ after))), c, n⟩)

/-- Passing over one more branch in front costs one more attempt. -/
lemma MeteredPass.cons {plain counted : Except Fault (Reply (Option ((ℕ × α) × List (Pending α))))}
    (h : MeteredPass pending plain counted) :
    MeteredPass ((p, place) :: pending)
      (plain.map fun reply => ⟨reply.result.map (Option.map (Prod.map id (List.cons (p, place)))),
        reply.cursor, own + reply.attempts⟩)
      (counted.map fun reply =>
        ⟨reply.result.map (Option.map (Prod.map id (List.cons (metered p, place)))),
          reply.cursor, own + 1 + reply.attempts⟩) := by
  cases h with
  | fault => exact .fault
  | stalled hn =>
    refine .stalled ?_
    dsimp only
    rw [hn, List.length_cons]
    omega
  | @settled before after q i a c own' n heq hn =>
    have hpending : (p, place) :: pending = ((p, place) :: before) ++ (q, i) :: after := by
      rw [heq, List.cons_append]
    refine .settled hpending ?_
    dsimp only
    rw [hn, List.length_cons]
    omega

/-- A pass over metered branches finds the same and counts what it tries. -/
lemma settleOne_meteredAll (horderly : ∀ entry ∈ pending, entry.1.parse.Orderly) (c : Cursor) :
    MeteredPass pending (settleOne pending c) (settleOne (meteredAll pending) c) := by
  induction pending generalizing c with
  | nil => exact .stalled rfl
  | cons entry pending ih =>
    obtain ⟨p, place⟩ := entry
    have hp : p.parse.Orderly := horderly (p, place) List.mem_cons_self
    have ih := ih fun q hq => horderly q (List.mem_cons_of_mem _ hq)
    have hmetered : (metered p).parse.tentatively c
        = (p.parse.tentatively c).map fun reply => { reply with attempts := reply.attempts + 1 } :=
      hp.tentatively_counted c
    show MeteredPass _ _ (settleOne ((metered p, place) :: meteredAll pending) c)
    rcases htried : p.parse.tentatively c with fault | ⟨e | _ | a, c₁, own⟩
    · rw [htried] at hmetered
      rw [settleOne_cons_error htried, settleOne_cons_error hmetered]
      exact .fault
    · exact absurd ⟨own, htried⟩ Parse.not_rejects_tentatively
    · rw [htried] at hmetered
      rw [settleOne_cons_none htried, settleOne_cons_none hmetered]
      exact (ih c₁).cons
    · rw [htried] at hmetered
      rw [settleOne_cons_some htried, settleOne_cons_some hmetered]
      exact .settled (List.nil_append _).symm rfl

end Pass

/-! ## All passes -/

section Passes

variable {branches : List (Parser α)} {chosen : Finset ℕ}

lemma settle_succ_of_error {count : ℕ} {pending : List (Pending α)} {c : Cursor} {f : Fault}
    (h : settleOne pending c = .error f) : settle (count + 1) pending c = .error f := by
  rw [settle, Parse.bind_apply, h]

/-- A pass that settles nothing is the last one. -/
lemma settle_succ_of_none {count own : ℕ} {pending : List (Pending α)} {c c₁ : Cursor}
    (h : settleOne pending c = .ok ⟨.ok none, c₁, own⟩) :
    settle (count + 1) pending c
      = .ok ⟨.error (c₁.unexpectedSymbol "one of the remaining patterns"), c₁, own⟩ := by
  rw [settle, Parse.bind_apply, h]
  rfl

lemma settle_succ_of_some {count own : ℕ} {pending others : List (Pending α)} {c c₁ : Cursor}
    {settled : ℕ × α} (h : settleOne pending c = .ok ⟨.ok (some (settled, others)), c₁, own⟩) :
    settle (count + 1) pending c = (settle count others c₁).map fun reply =>
      ⟨reply.result.map (List.cons settled), reply.cursor, own + reply.attempts⟩ := by
  rw [settle, Parse.bind_apply, h]
  dsimp only
  rw [Parse.bind_apply]
  rcases settle count others c₁ with fault | ⟨e | later, c₂, n⟩ <;> rfl

/-- The places of the branches that are left. -/
def placesLeft (branches : List (Parser α)) (chosen : Finset ℕ) : List ℕ :=
  (unchosen branches chosen).map Prod.snd

/-- In the order of declaration a branch is behind those that are left and come before it. -/
lemma placesLeft_insert_of_eq {before after : List (Pending α)} {p : Parser α} {i : ℕ}
    (h : unchosen branches chosen = before ++ (p, i) :: after) :
    placesLeft branches (insert i chosen) = (placesLeft branches chosen).erase i ∧
      (placesLeft branches chosen).idxOf i = before.length := by
  obtain ⟨hinsert, hbefore, -⟩ := unchosen_insert_of_eq h
  have hnot : i ∉ before.map Prod.snd := by
    intro hi
    obtain ⟨entry, hentry, heq⟩ := List.mem_map.mp hi
    exact (hbefore entry hentry).ne heq
  have hplaces : placesLeft branches chosen = before.map Prod.snd ++ i :: after.map Prod.snd := by
    rw [placesLeft, h, List.map_append, List.map_cons]
  constructor
  · rw [placesLeft, hinsert, hplaces, List.erase_append_right _ hnot, List.erase_cons_head,
      List.map_append]
  · rw [hplaces, List.idxOf_append_of_notMem hnot, List.idxOf_cons_self, List.length_map]
    rfl

/-- The answer of a run over branches and the answer of the same run over metered branches, which
counts `own` attempts of the branches and those of the passes of the greedy schedule. The run
succeeds if the schedule chooses every branch that is left. -/
inductive MeteredRun {β : Type} (branches : List (Parser α)) (chosen : Finset ℕ) (c : Cursor) :
    (plain counted : Except Fault (Reply β)) → Prop
  | fault {f : Fault} : MeteredRun branches chosen c (.error f) (.error f)
  | reply {choices : List (ℕ × α)} {result : Except ParseError β} {c' : Cursor} {own n : ℕ} :
    Schedule branches chosen c choices c' →
    (result.isOk = true ↔ choices.length = (unchosen branches chosen).length) →
    n = own + passAttempts (placesLeft branches chosen) (choices.map Prod.fst) →
    MeteredRun branches chosen c (.ok ⟨result, c', own⟩) (.ok ⟨result, c', n⟩)

/-- What is done with the values afterwards costs nothing. -/
lemma MeteredRun.map {β γ : Type} {c : Cursor} {plain counted : Except Fault (Reply β)}
    (h : MeteredRun branches chosen c plain counted) (f : β → γ) :
    MeteredRun branches chosen c
      (plain.map fun reply => { reply with result := reply.result.map f })
      (counted.map fun reply => { reply with result := reply.result.map f }) := by
  cases h with
  | fault => exact .fault
  | @reply choices result c' own n hschedule hok hn =>
    refine .reply hschedule ?_ hn
    rw [← hok]
    cases result <;> rfl

/-- A pass that settles a branch costs one attempt for it and for each branch that is left before
it, and those of the passes after it. -/
lemma MeteredRun.choose {β γ : Type} {before after : List (Pending α)} {p : Parser α} {i : ℕ}
    {a : α} {c c₁ : Cursor} {own n : ℕ} {plain counted : Except Fault (Reply β)}
    (heq : unchosen branches chosen = before ++ (p, i) :: after) (hi : i ∉ chosen)
    (hbefore : ∀ k < i, k ∉ chosen → (parseBranch branches k).Fails c)
    (haccepts : (parseBranch branches i).Accepts c a c₁) (hn : n = own + (before.length + 1))
    (h : MeteredRun branches (insert i chosen) c₁ plain counted) (f : β → γ) :
    MeteredRun branches chosen c
      (plain.map fun reply => ⟨reply.result.map f, reply.cursor, own + reply.attempts⟩)
      (counted.map fun reply => ⟨reply.result.map f, reply.cursor, n + reply.attempts⟩) := by
  cases h with
  | fault => exact .fault
  | @reply choices result c' later m hrest hok hm =>
    obtain ⟨hplaces, hidx⟩ := placesLeft_insert_of_eq heq
    have hlength := length_unchosen_insert (lt_of_accepts_parseBranch haccepts) hi
    refine .reply (.choose hi hbefore haccepts hrest) ?_ ?_
    · rw [List.length_cons, hlength, Nat.add_right_cancel_iff, ← hok]
      cases result <;> rfl
    · dsimp only
      rw [List.map_cons, passAttempts, hidx, ← hplaces, hn, hm]
      omega

/-- The passes over metered branches settle the same and count what they try. -/
lemma settle_meteredAll (horderly : ∀ p ∈ branches, p.parse.Orderly) {count : ℕ}
    (hcount : (unchosen branches chosen).length = count) (c : Cursor) :
    MeteredRun branches chosen c (settle count (unchosen branches chosen) c)
      (settle count (meteredAll (unchosen branches chosen)) c) := by
  -- one pass for each branch that is left
  induction count generalizing chosen c with
  | zero =>
    have hnil : unchosen branches chosen = [] := List.eq_nil_of_length_eq_zero hcount
    have hstop : Schedule branches chosen c [] c := by
      refine .stop fun i hi hnot => ?_
      rw [length_unchosen_insert hi hnot] at hcount
      omega
    refine .reply hstop (iff_of_true rfl hcount.symm) ?_
    rw [List.map_nil, passAttempts, placesLeft, hnil]
    rfl
  | succ count ih =>
    have hpending : ∀ entry ∈ unchosen branches chosen, entry.1.parse.Orderly :=
      orderly_unchosen horderly
    have hpass := settleOne_meteredAll hpending c
    generalize hplain : settleOne (unchosen branches chosen) c = plain at hpass
    generalize hcounted : settleOne (meteredAll (unchosen branches chosen)) c = counted at hpass
    cases hpass with
    | fault =>
      rw [settle_succ_of_error hplain, settle_succ_of_error hcounted]
      exact .fault
    | @stalled c₁ own n hn =>
      rw [settle_succ_of_none hplain, settle_succ_of_none hcounted]
      obtain ⟨rfl, hfails⟩ := (accepts_none_pass_iff horderly).mp ⟨own, hplain⟩
      have hstop : Schedule branches chosen c₁ [] c₁ := .stop hfails
      refine .reply hstop (iff_of_false Bool.false_ne_true fun h => ?_) ?_
      · rw [hcount] at h
        cases h
      · rw [hn, List.map_nil, passAttempts, placesLeft, List.length_map]
    | @settled before after p i a c₁ own n heq hn =>
      rw [settle_succ_of_some hplain, settle_succ_of_some hcounted]
      obtain ⟨hothers, hi, hbefore, haccepts⟩ := (accepts_some_pass_iff horderly).mp ⟨own, hplain⟩
      have hlength := length_unchosen_insert (lt_of_accepts_parseBranch haccepts) hi
      rw [hothers]
      exact (ih (by omega) c₁).choose heq hi hbefore haccepts hn _

lemma placesLeft_empty (branches : List (Parser α)) :
    placesLeft branches ∅ = List.range branches.length := by
  rw [placesLeft, unchosen_empty, List.zipIdx_map_snd, List.range_eq_range']

/-- Metered branches in any order are read as the branches are. -/
lemma unordered_metered (horderly : ∀ p ∈ branches, p.parse.Orderly) (c : Cursor) :
    MeteredRun branches ∅ c ((unordered branches).parse c)
      ((unordered (branches.map metered)).parse c) := by
  have hparse : ∀ bs : List (Parser α), (unordered bs).parse c
      = (settle bs.length bs.zipIdx c).map fun reply =>
        { reply with result := reply.result.map (inPlace bs.length) } := fun bs =>
    parse_convert ⟨"settle", false, settle bs.length bs.zipIdx⟩ (inPlace bs.length) c
  have hcount : (unchosen branches ∅).length = branches.length := by
    rw [unchosen_empty, List.length_zipIdx]
  have hrun := (settle_meteredAll horderly hcount c).map (inPlace branches.length)
  rw [unchosen_empty] at hrun
  rw [hparse, hparse, List.length_map, List.zipIdx_map]
  exact hrun

end Passes

end Parser

namespace Grammar

open Parlance.Parser

/-- Reading `n` branches in any order makes at most `n * (n + 1) / 2` attempts, whether it succeeds
or fails, and at least `n` if it succeeds. Exactly, the attempts are those of the passes of the
greedy schedule: in each pass the branches that are left, up to the one that is settled, and all of
them in a pass that settles none. The attempts are counted by metering every branch, which leaves
the answer as it is, and come on top of those that the branches count themselves. -/
theorem unordered_attempts (rules : Rules) (gs : List Grammar) (c : Cursor) :
    let plain := ((Grammar.unordered gs).parser rules).parse
    let counted := ((Grammar.unordered (gs.map .metered)).parser rules).parse
    (∀ fault, counted c = .error fault ↔ plain c = .error fault) ∧
    ∀ result c' own, plain c = .ok ⟨result, c', own⟩ →
      ∃ choices made, Schedule (gs.map (parser rules)) ∅ c choices c' ∧
        (result.isOk = true ↔ choices.length = gs.length) ∧
        counted c = .ok ⟨result, c', own + made⟩ ∧
        made = passAttempts (List.range gs.length) (choices.map Prod.fst) ∧
        made ≤ gs.length * (gs.length + 1) / 2 ∧
        (result.isOk = true → gs.length ≤ made) := by
  intro plain counted
  have horderly := orderly_branches rules gs
  have hlength : (gs.map (parser rules)).length = gs.length := List.length_map _
  have hmetered : (gs.map Grammar.metered).map (parser rules)
      = (gs.map (parser rules)).map Parser.metered := by
    rw [List.map_map, List.map_map]
    rfl
  have hrun : MeteredRun (gs.map (parser rules)) ∅ c (plain c) (counted c) := by
    have h := (unordered_metered horderly c).map Value.list
    rw [← parse_convert, ← parse_convert, ← hmetered, ← parser_unordered, ← parser_unordered] at h
    exact h
  generalize plain c = answer at hrun ⊢
  generalize counted c = answer' at hrun ⊢
  cases hrun with
  | fault => exact ⟨fun _ => Iff.rfl, fun _ _ _ h => nomatch h⟩
  | @reply choices result c' own n hschedule hok hn =>
    refine ⟨fun _ => iff_of_false nofun nofun, fun _ _ _ h => ?_⟩
    cases h
    rw [placesLeft_empty, hlength] at hn
    rw [unchosen_empty, List.length_zipIdx, hlength] at hok
    have hsubset : choices.map Prod.fst ⊆ List.range gs.length := by
      intro k hk
      obtain ⟨choice, hchoice, rfl⟩ := List.mem_map.mp hk
      exact List.mem_range.mpr (hlength ▸ (hschedule.mem_range choice hchoice).1)
    have hle := two_mul_passAttempts_le hschedule.nodup_places hsubset
    rw [List.length_range] at hle
    refine ⟨choices, _, hschedule, hok, by rw [hn], rfl, ?_, fun hsuccess => ?_⟩
    · rw [Nat.le_div_iff_mul_le Nat.two_pos, Nat.mul_comm]
      exact hle
    · have hge := length_le_passAttempts (List.range gs.length) (choices.map Prod.fst)
      rwa [List.length_map, hok.mp hsuccess] at hge

/-- Three letters in the reverse order need as many attempts as three branches can make. -/
theorem unordered_attempts_letters :
    let gs := [Grammar.literal "a", .literal "b", .literal "c"]
    let plain := ((Grammar.unordered gs).parser []).parse
    let counted := ((Grammar.unordered (gs.map .metered)).parser []).parse
    let c := Cursor.ofString "c b a"
    let result := Except.ok (Value.ofStrings ["a", "b", "c"])
    plain c = .ok ⟨result, c.past "c b a".toList, 0⟩ ∧
      counted c = .ok ⟨result, c.past "c b a".toList, 6⟩ ∧
      ∃ choices, Schedule (gs.map (parser [])) ∅ c choices (c.past "c b a".toList) ∧
        choices.length = 3 ∧ passAttempts (List.range 3) (choices.map Prod.fst) = 6 := by
  intro gs plain counted c result
  have hplain : plain c = .ok ⟨result, c.past "c b a".toList, 0⟩ := by decide +kernel
  have hcounted : counted c = .ok ⟨result, c.past "c b a".toList, 6⟩ := by decide +kernel
  obtain ⟨-, hreply⟩ := unordered_attempts [] gs c
  obtain ⟨choices, made, hschedule, hall, hmade, hpasses, -⟩ := hreply _ _ _ hplain
  have hsix : made = 6 := by
    have hsame := hmade.symm.trans hcounted
    simpa using hsame
  exact ⟨hplain, hcounted, choices, hschedule, hall.mp rfl, hpasses.symm.trans hsix⟩

end Grammar

end Parlance
