import Parlance.Proofs.Unordered
import Mathlib.Data.Fin.VecNotation
import Mathlib.Data.List.Infix
import Mathlib.Data.List.OfFn
import Mathlib.Logic.Equiv.Defs

/-!
# Exclusive branches

If no two branches succeed from the same place, a greedy schedule never has a choice: the branch that
is settled next is the only one that succeeds there, whatever the order of declaration. So the
schedules of two declarations choose the same branches one by one, each in its own place
(`Schedule.permuted`), and reading the branches in any order gives the same values, each in its own
order, and the same cursor or the same error (`Grammar.unordered_permutes`).
-/

namespace Parlance.Parser

variable {α : Type} {n : ℕ} {branches : Fin n → Parser α} {c : Cursor}

/-- Wherever `c` may get to, no two branches succeed. -/
def Exclusive (branches : Fin n → Parser α) (c : Cursor) : Prop :=
  ∀ t, t <+: c.ahead → ∀ i j a b c₁ c₂, (branches i).parse.Accepts (c.past t) a c₁ →
    (branches j).parse.Accepts (c.past t) b c₂ → i = j

/-- There are only so many places to get to. -/
instance (branches : Fin n → Parser α) (c : Cursor) : Decidable (Exclusive branches c) :=
  decidable_of_iff
    (∀ t ∈ c.ahead.inits, ∀ i j, (branches i).parse.succeeds (c.past t) = true →
      (branches j).parse.succeeds (c.past t) = true → i = j) <| by
    simp only [Parse.succeeds_iff, List.mem_inits]
    constructor
    · exact fun h t ht i j a b c₁ c₂ hi hj => h t ht i j ⟨a, c₁, hi⟩ ⟨b, c₂, hj⟩
    · exact fun h t ht i j ⟨a, c₁, hi⟩ ⟨b, c₂, hj⟩ => h t ht i j a b c₁ c₂ hi hj

lemma Exclusive.past (h : Exclusive branches c) {t : List Char} (ht : t <+: c.ahead) :
    Exclusive branches (c.past t) :=
  Cursor.forall_past_of_prefix
    (fun d => ∀ i j a b c₁ c₂, (branches i).parse.Accepts d a c₁ →
      (branches j).parse.Accepts d b c₂ → i = j) h ht

lemma Exclusive.eq (h : Exclusive branches c) {i j : Fin n} {a b : α} {c₁ c₂ : Cursor}
    (hi : (branches i).parse.Accepts c a c₁) (hj : (branches j).parse.Accepts c b c₂) : i = j := by
  rw [← Cursor.past_nil c] at hi hj
  exact h [] List.nil_prefix i j a b c₁ c₂ hi hj

/-! ## Branches by place -/

lemma parseBranch_ofFn (i : Fin n) : parseBranch (List.ofFn branches) i = (branches i).parse :=
  parseBranch_of_getElem? (by rw [List.getElem?_ofFn, dif_pos i.isLt])

/-- What succeeds at a place is the branch that is declared there. -/
lemma exists_of_accepts_ofFn {k : ℕ} {a : α} {c' : Cursor}
    (h : (parseBranch (List.ofFn branches) k).Accepts c a c') :
    ∃ i : Fin n, k = i ∧ (branches i).parse.Accepts c a c' := by
  have hk : k < n := by simpa using lt_of_accepts_parseBranch h
  exact ⟨⟨k, hk⟩, rfl, by rwa [← parseBranch_ofFn]⟩

/-- The place at which the branch is declared that stands at `place` in the order of `σ`. -/
def declaredPlace (σ : Equiv.Perm (Fin n)) (place : ℕ) : ℕ :=
  if h : place < n then σ ⟨place, h⟩ else place

@[simp] lemma declaredPlace_val (σ : Equiv.Perm (Fin n)) (i : Fin n) :
    declaredPlace σ i = σ i := dif_pos i.isLt

/-! ## Schedules -/

/-- The schedules of exclusive branches in two orders settle the same branches one after the other. -/
theorem Schedule.permuted (σ : Equiv.Perm (Fin n)) (horderly : ∀ i, (branches i).parse.Orderly)
    (hexclusive : Exclusive branches c) {chosen chosen' : Finset ℕ}
    (hchosen : ∀ i : Fin n, (i : ℕ) ∈ chosen' ↔ (σ i : ℕ) ∈ chosen)
    {choices choices' : List (ℕ × α)} {d d' : Cursor}
    (h : Schedule (List.ofFn branches) chosen c choices d)
    (h' : Schedule (List.ofFn (branches ∘ σ)) chosen' c choices' d') :
    choices = choices'.map (Prod.map (declaredPlace σ) id) ∧ d = d' := by
  induction h generalizing chosen' choices' d' with
  | @stop chosen c hstop =>
    cases h' with
    | stop => exact ⟨rfl, rfl⟩
    | choose hfresh _ haccepts =>
      -- the branch that is chosen in one order is left in the other, where all that are left fail
      obtain ⟨k, rfl, hk⟩ := exists_of_accepts_ofFn haccepts
      have hfails := hstop (σ k) (by simp) (mt (hchosen k).mpr hfresh)
      rw [parseBranch_ofFn] at hfails
      exact absurd hfails hk.not_fails
  | @choose chosen c c₁ d _ a choices hfresh _ haccepts _ ih =>
    obtain ⟨i, rfl, hi⟩ := exists_of_accepts_ofFn haccepts
    cases h' with
    | stop hstop =>
      have hnot : ((σ.symm i : Fin n) : ℕ) ∉ chosen' := by
        rw [hchosen, σ.apply_symm_apply]
        exact hfresh
      have hfails := hstop (σ.symm i) (by simp) hnot
      rw [parseBranch_ofFn, Function.comp_apply, σ.apply_symm_apply] at hfails
      exact absurd hfails hi.not_fails
    | @choose _ _ d₁ _ _ b choices' _ _ haccepts' hrest' =>
      obtain ⟨k, rfl, hk⟩ := exists_of_accepts_ofFn haccepts'
      -- both succeed at the same place, so they are the same branch
      obtain rfl : i = σ k := hexclusive.eq hi hk
      obtain ⟨rfl, rfl⟩ := hi.unique hk
      obtain ⟨t, ht, rfl⟩ := (horderly (σ k)).exists_past_of_accepts hi
      have hlater : ∀ j : Fin n, (j : ℕ) ∈ insert (k : ℕ) chosen' ↔
          (σ j : ℕ) ∈ insert (σ k : ℕ) chosen := by
        intro j
        rw [Finset.mem_insert, Finset.mem_insert, hchosen, Fin.val_inj, Fin.val_inj,
          σ.injective.eq_iff]
      obtain ⟨rfl, rfl⟩ := ih (hexclusive.past ht) hlater hrest'
      exact ⟨by simp, rfl⟩

/-! ## Replies -/

/-- A reply to branches in any order is made where their schedule ends. -/
lemma exists_schedule_of_reply {branches : List (Parser α)}
    (horderly : ∀ p ∈ branches, p.parse.Orderly) {reply : Reply (List α)}
    (h : (unordered branches).parse c = .ok reply) :
    ∃ choices, Schedule branches ∅ c choices reply.cursor ∧
      ((∃ values, reply.result = .ok values ∧ choices.length = branches.length ∧
          values.length = branches.length ∧
          ∀ choice ∈ choices, values[choice.1]? = some choice.2) ∨
        choices.length < branches.length ∧
          reply.result = .error (reply.cursor.unexpectedSymbol "one of the remaining patterns")) := by
  obtain ⟨e | values, c', k⟩ := reply
  · obtain ⟨choices, hschedule, hlt, rfl⟩ := (rejects_unordered_iff horderly).mp ⟨k, h⟩
    exact ⟨choices, hschedule, Or.inr ⟨hlt, rfl⟩⟩
  · obtain ⟨choices, hschedule, hvalues⟩ := (accepts_unordered_iff horderly).mp ⟨k, h⟩
    exact ⟨choices, hschedule, Or.inl ⟨values, rfl, hvalues⟩⟩

/-- Branches in any order give a reply if every branch does wherever it may be run. -/
lemma exists_reply_unordered {branches : List (Parser α)}
    (horderly : ∀ p ∈ branches, p.parse.Orderly)
    (hreplies : ∀ t, t <+: c.ahead → ∀ p ∈ branches, ∃ reply, p.parse (c.past t) = .ok reply) :
    ∃ reply, (unordered branches).parse c = .ok reply := by
  obtain ⟨choices, c', h⟩ : ∃ choices c', Schedule branches ∅ c choices c' :=
    Schedule.exists_of_replies horderly hreplies
  rcases h.length_le.lt_or_eq with hlt | hlength
  · obtain ⟨k, hk⟩ := (rejects_unordered_iff horderly).mpr ⟨choices, h, hlt, rfl⟩
    exact ⟨_, hk⟩
  · have hrange : ∀ choice ∈ choices, choice.1 < branches.length :=
      fun choice hchoice => (h.mem_range choice hchoice).1
    have hvalues := (eq_inPlace_iff h.nodup_places hrange hlength).mp rfl
    obtain ⟨k, hk⟩ := (accepts_unordered_iff horderly).mpr ⟨choices, h, hlength, hvalues⟩
    exact ⟨_, hk⟩

lemma eq_ofFn_of_getElem? {values : List α} {v : Fin n → α} (hlength : values.length = n)
    (h : ∀ i : Fin n, values[(i : ℕ)]? = some (v i)) : values = List.ofFn v := by
  refine List.ext_getElem? fun k => ?_
  rw [List.getElem?_ofFn]
  split_ifs with hk
  · exact h ⟨k, hk⟩
  · exact List.getElem?_eq_none (by omega)

/-- If the same branches were chosen with the same values, the values are the same, each in its order
of declaration. -/
lemma exists_values_permuted (σ : Equiv.Perm (Fin n)) {choices : List (ℕ × α)}
    (hall : ∀ i : Fin n, ∃ a, ((i : ℕ), a) ∈ choices) {values values' : List α}
    (hcount : values.length = n) (hcount' : values'.length = n)
    (hplaces : ∀ choice ∈ choices.map (Prod.map (declaredPlace σ) id),
      values[choice.1]? = some choice.2)
    (hplaces' : ∀ choice ∈ choices, values'[choice.1]? = some choice.2) :
    ∃ v : Fin n → α, values = List.ofFn v ∧ values' = List.ofFn (v ∘ σ) := by
  refine ⟨fun i => values.get (i.cast hcount.symm),
    eq_ofFn_of_getElem? hcount fun i => List.getElem?_eq_getElem _,
    eq_ofFn_of_getElem? hcount' fun i => ?_⟩
  obtain ⟨a, ha⟩ := hall i
  have hmem : ((σ i : ℕ), a) ∈ choices.map (Prod.map (declaredPlace σ) id) :=
    List.mem_map.mpr ⟨_, ha, by simp⟩
  rw [hplaces' _ ha, ← hplaces _ hmem]
  exact List.getElem?_eq_getElem _

/-- Replies to exclusive branches in two orders have the same values, each in its order, or the same
error, and the same cursor. -/
theorem unordered_permuted (σ : Equiv.Perm (Fin n)) (horderly : ∀ i, (branches i).parse.Orderly)
    (hexclusive : Exclusive branches c) {reply reply' : Reply (List α)}
    (h : (unordered (List.ofFn branches)).parse c = .ok reply)
    (h' : (unordered (List.ofFn (branches ∘ σ))).parse c = .ok reply') :
    reply.cursor = reply'.cursor ∧
      ((∃ v : Fin n → α, reply.result = .ok (List.ofFn v) ∧
          reply'.result = .ok (List.ofFn (v ∘ σ))) ∨
        ∃ e, reply.result = .error e ∧ reply'.result = .error e) := by
  obtain ⟨choices, hschedule, hresult⟩ :=
    exists_schedule_of_reply (List.forall_mem_ofFn_iff.mpr horderly) h
  obtain ⟨choices', hschedule', hresult'⟩ :=
    exists_schedule_of_reply (List.forall_mem_ofFn_iff.mpr fun i => horderly (σ i)) h'
  obtain ⟨rfl, hcursor⟩ := hschedule.permuted σ horderly hexclusive (by simp) hschedule'
  refine ⟨hcursor, ?_⟩
  rw [List.length_map, List.length_ofFn] at hresult
  rw [List.length_ofFn] at hresult'
  -- both orders choose equally many branches, so they choose all of them or not
  rcases hresult with ⟨values, hvalues, hlength, hcount, hplaces⟩ | ⟨hlt, herror⟩
  · rcases hresult' with ⟨values', hvalues', -, hcount', hplaces'⟩ | ⟨hlt', -⟩
    · have hrange : ∀ choice ∈ choices', choice.1 < n := fun choice hchoice => by
        simpa using (hschedule'.mem_range choice hchoice).1
      have hall : ∀ i : Fin n, ∃ a, ((i : ℕ), a) ∈ choices' := fun i =>
        exists_mem_of_length_eq hschedule'.nodup_places hrange hlength i.isLt
      obtain ⟨v, rfl, rfl⟩ := exists_values_permuted σ hall hcount hcount' hplaces hplaces'
      exact Or.inl ⟨v, hvalues, hvalues'⟩
    · omega
  · rcases hresult' with ⟨_, -, hlength', -⟩ | ⟨-, herror'⟩
    · omega
    · exact Or.inr ⟨_, herror, by rw [herror', hcursor]⟩

end Parlance.Parser

namespace Parlance

open Parlance.Parser

lemma Grammar.parse_unordered (rules : Rules) {n : ℕ} (branches : Fin n → Grammar) (c : Cursor) :
    ((Grammar.unordered (List.ofFn branches)).parser rules).parse c
      = ((Parser.unordered (List.ofFn fun i => (branches i).parser rules)).parse c).map fun reply =>
        { reply with result := reply.result.map .list } := by
  rw [parser_unordered, List.map_ofFn, parse_convert]
  rfl

/-- Branches of which no two succeed from the same place may be declared in any order. Whenever both
orders give a reply, either both succeed, with the same values, each in the order of declaration, or
both fail with the same error, and the cursor that is left is the same. Both give a reply if every
branch gives one wherever it may be run; a branch that gives none somewhere may be run there in one
order and not in the other. -/
theorem Grammar.unordered_permutes (rules : Rules) {n : ℕ} (branches : Fin n → Grammar)
    (σ : Equiv.Perm (Fin n)) (c : Cursor)
    (hexclusive : Exclusive (fun i => (branches i).parser rules) c) :
    let declared := ((Grammar.unordered (List.ofFn branches)).parser rules).parse
    let permuted := ((Grammar.unordered (List.ofFn (branches ∘ σ))).parser rules).parse
    (∀ reply reply', declared c = .ok reply → permuted c = .ok reply' →
      reply.cursor = reply'.cursor ∧
        ((∃ v : Fin n → Value, reply.result = .ok (.list (List.ofFn v)) ∧
            reply'.result = .ok (.list (List.ofFn (v ∘ σ)))) ∨
          ∃ e, reply.result = .error e ∧ reply'.result = .error e)) ∧
    ((∀ t, t <+: c.ahead → ∀ i, ∃ reply,
        ((branches i).parser rules).parse (c.past t) = .ok reply) →
      (∃ reply, declared c = .ok reply) ∧ ∃ reply', permuted c = .ok reply') := by
  intro declared permuted
  have horderly : ∀ i, ((branches i).parser rules).parse.Orderly :=
    fun i => (branches i).orderly_parse rules
  have hdeclared := parse_unordered rules branches c
  have hpermuted := parse_unordered rules (branches ∘ σ) c
  refine ⟨fun reply reply' h h' => ?_, fun hreplies => ⟨?_, ?_⟩⟩
  · obtain ⟨found, hfound, rfl⟩ := exists_of_map_eq_ok (hdeclared.symm.trans h)
    obtain ⟨found', hfound', rfl⟩ := exists_of_map_eq_ok (hpermuted.symm.trans h')
    obtain ⟨hcursor, hresult⟩ := unordered_permuted σ horderly hexclusive hfound hfound'
    refine ⟨hcursor, hresult.imp (fun ⟨v, hv, hv'⟩ => ?_) fun ⟨e, he, he'⟩ => ?_⟩
    · exact ⟨v, by rw [hv]; rfl, by rw [hv']; rfl⟩
    · exact ⟨e, by rw [he]; rfl, by rw [he']; rfl⟩
  · obtain ⟨found, hfound⟩ := exists_reply_unordered (List.forall_mem_ofFn_iff.mpr horderly)
      fun t ht => List.forall_mem_ofFn_iff.mpr (hreplies t ht)
    exact ⟨_, hdeclared.trans (congrArg _ hfound)⟩
  · obtain ⟨found, hfound⟩ := exists_reply_unordered
      (List.forall_mem_ofFn_iff.mpr fun i => horderly (σ i))
      fun t ht => List.forall_mem_ofFn_iff.mpr fun i => hreplies t ht (σ i)
    exact ⟨_, hpermuted.trans (congrArg _ hfound)⟩

/-- Two letters and a number in any order, declared in another. -/
theorem Grammar.unordered_permutes_letters :
    let branches : Fin 3 → Grammar := ![.literal "a", .sequence (.range '0' '9'), .literal "b"]
    let σ : Equiv.Perm (Fin 3) := ⟨![1, 2, 0], ![2, 0, 1],
      by show ∀ i, _ = i; decide, by show ∀ i, _ = i; decide⟩
    let c := (Cursor.ofString "é b12 a.").past ['é']
    let declared := ((Grammar.unordered (List.ofFn branches)).parser []).parse
    let permuted := ((Grammar.unordered (List.ofFn (branches ∘ σ))).parser []).parse
    let number := Value.list [.char '1', .char '2']
    Exclusive (fun i => (branches i).parser []) c ∧
      (∀ t, t <+: c.ahead → ∀ i, ∃ reply,
        ((branches i).parser []).parse (c.past t) = .ok reply) ∧
      declared.Accepts c (.list [.str "a", number, .str "b"]) (c.past " b12 a".toList) ∧
      permuted.Accepts c (.list [number, .str "b", .str "a"]) (c.past " b12 a".toList) := by
  intro branches σ c declared permuted number
  have hexclusive : Exclusive (fun i => (branches i).parser []) c := by decide +kernel
  have hreplies : ∀ t, t <+: c.ahead → ∀ i, ∃ reply,
      ((branches i).parser []).parse (c.past t) = .ok reply := by
    have hall : ∀ t ∈ c.ahead.inits, ∀ i,
        (((branches i).parser []).parse (c.past t)).isOk = true := by decide +kernel
    exact fun t ht i => exists_eq_ok_of_isOk (hall t ((List.mem_inits t c.ahead).mpr ht) i)
  have haccepts : declared.Accepts c (.list [.str "a", number, .str "b"])
      (c.past " b12 a".toList) := ⟨0, by decide +kernel⟩
  obtain ⟨hsame, hboth⟩ := Grammar.unordered_permutes [] branches σ c hexclusive
  obtain ⟨-, ⟨result, c', k⟩, hreply⟩ := hboth hreplies
  obtain ⟨n, hn⟩ := haccepts
  obtain ⟨hcursor, ⟨v, hv, hv'⟩ | ⟨e, he, -⟩⟩ := hsame _ _ hn hreply
  · obtain rfl : v = ![.str "a", number, .str "b"] :=
      List.ofFn_injective (Value.list.inj (Except.ok.inj hv)).symm
    dsimp only at hcursor hv'
    subst hcursor hv'
    exact ⟨hexclusive, hreplies, ⟨n, hn⟩, k, hreply⟩
  · cases he

end Parlance
