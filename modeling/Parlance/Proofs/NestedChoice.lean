import Parlance.Proofs.UpTo

/-!
# Ordered choice in grammars

A choice takes its first branch that succeeds, as if that branch were run alone. So a choice among
the branches of another choice can be replaced by its own branches (`Grammar.Inlines`). Its error
is the only thing that changes: the two grammars have the `SameOutcome`, and this is a congruence, so
choices can be inlined anywhere in a grammar and in its rules.
-/

namespace Parlance

open Parlance.Parser

variable {α β : Type}

/-! ## Outcomes without errors -/

/-- Parses that, run from the same cursor, have the same value, leave the same cursor and make the
same number of attempts. If they fail, the errors may differ. -/
abbrev Parse.SameOutcome (α : Type) (p q : Parse α) : Prop := Parse.UpTo (fun _ _ => True) α p q

namespace Parse.SameOutcome

variable {p q : Parse α}

theorem congruence : Congruence SameOutcome where
  toContextual := UpTo.contextual (fun _ => trivial) fun _ _ => trivial
  trans {_ p q r} hpq hqr c := by
    have hc := hpq c
    have hc' := hqr c
    generalize p c = x, q c = y, r c = z at hc hc' ⊢
    cases hc with
    | fault | accepted => exact hc'
    | rejected c n _ =>
      cases hc' with
      | rejected _ _ _ => exact .rejected c n trivial

lemma exists_rejects_iff (hpq : SameOutcome α p q) {c c' : Cursor} :
    (∃ e, p.Rejects c e c') ↔ ∃ e, q.Rejects c e c' := by
  constructor
  · rintro ⟨e, h⟩
    obtain ⟨e', h', -⟩ := UpTo.exists_rejects hpq h
    exact ⟨e', h'⟩
  · rintro ⟨e', h'⟩
    obtain ⟨e, h, -⟩ := UpTo.exists_rejects_left hpq h'
    exact ⟨e, h⟩

end Parse.SameOutcome

/-! ## Inlining -/

/-- A choice among the branches of a choice is replaced by its own branches. -/
inductive Grammar.Inlines : Grammar → Grammar → Prop
  | pick (before inner after : List Grammar) :
    Inlines (.pick (before ++ .pick inner :: after)) (.pick (before ++ inner ++ after))

namespace Parser

/-- A choice that is tried is a search among its branches. -/
lemma tentatively_pick {branches : List (Parser α)}
    (horderly : ∀ p ∈ branches, p.parse.Orderly) :
    (pick branches).parse.tentatively = firstOf branches := by
  have hbranches : ParsesAlike (fun _ p q => p = q ∧ p.Orderly) branches branches :=
    List.forall₂_same.mpr fun p hp => ⟨rfl, horderly p hp⟩
  have hfound : (firstOf branches).Orderly :=
    (Parse.hereditary_orderly.compositional.firstOf hbranches).2
  have hpick : (pick branches).parse.Orderly := by
    refine hfound.bindOf fun found _ => ?_
    cases found with
    | some value => exact .pure value
    | none => exact Parse.Orderly.fail fun _ _ => rfl
  funext c
  rw [Parse.Orderly.tentatively_eq, hpick.speculate_eq]
  show (((firstOf branches >>= _) c).map _).map _ = _
  rw [Parse.bind_apply]
  rcases hc : firstOf branches c with fault | ⟨e | _ | value, c', n⟩
  · rfl
  · exact absurd ⟨n, hc⟩ not_rejects_firstOf
  · obtain ⟨rfl, -⟩ := (accepts_none_firstOf_iff horderly).mp ⟨n, hc⟩
    rfl
  · rfl

/-- A search among branches passes through a choice as if its branches stood in its place. -/
lemma firstOf_inline {inner : List (Parser α)} (horderly : ∀ p ∈ inner, p.parse.Orderly)
    (before after : List (Parser α)) :
    firstOf (before ++ pick inner :: after) = firstOf (before ++ inner ++ after) := by
  have hinner : firstOf (pick inner :: after) = firstOf (inner ++ after) := by
    rw [firstOf, tentatively_pick horderly]
    exact (firstOf_append inner after).symm
  rw [List.append_assoc, firstOf_append, firstOf_append before, hinner]

end Parser

lemma Grammar.Inlines.akin {rule : String → Parse Value} (hrule : ∀ name, (rule name).Orderly)
    {g g' : Grammar} (h : g.Inlines g') :
    Akin Parse.SameOutcome (g.parserWith rule) (g'.parserWith rule) := by
  obtain ⟨before, inner, after⟩ := h
  have horderly : ∀ p ∈ inner.map (parserWith rule), p.parse.Orderly := by
    intro p hp
    obtain ⟨g, -, rfl⟩ := List.mem_map.mp hp
    exact orderly_parserWith hrule g
  have hfirst := firstOf_inline horderly (before.map (parserWith rule))
    (after.map (parserWith rule))
  refine ⟨rfl, ?_⟩
  simp only [parserWith, parsersWith_eq_map, List.map_append, List.map_cons]
  show Parse.SameOutcome _ (firstOf _ >>= _) (firstOf _ >>= _)
  rw [hfirst]
  refine Parse.SameOutcome.congruence.bind (Parse.SameOutcome.congruence.refl _) fun found => ?_
  cases found with
  | some value => exact Parse.SameOutcome.congruence.refl _
  | none => exact fun c => .rejected c 0 trivial

/-! ## Ordered choice -/

namespace Grammar

variable {rules : Rules} {branches before after : List Grammar} {g : Grammar} {c c' : Cursor}
  {v : Value}

lemma parser_pick (rules : Rules) (gs : List Grammar) :
    (Grammar.pick gs).parser rules = Parser.pick (gs.map (parser rules)) := by
  rw [parser, parserWith, parsersWith_eq_map]
  rfl

lemma accepts_pick_iff :
    ((Grammar.pick branches).parser rules).parse.Accepts c v c' ↔
      ∃ before g after, branches = before ++ g :: after ∧
        (∀ b ∈ before, (b.parser rules).parse.Fails c) ∧
        (g.parser rules).parse.Accepts c v c' := by
  rw [parser_pick, Parser.accepts_pick_iff (orderly_branches rules branches)]
  constructor
  · rintro ⟨before, p, after, heq, hfails, haccepts⟩
    obtain ⟨gs, rest, rfl, rfl, hrest⟩ := List.map_eq_append_iff.mp heq
    obtain ⟨g, later, rfl, rfl, rfl⟩ := List.map_eq_cons_iff.mp hrest
    exact ⟨gs, g, later, rfl, fun b hb => hfails _ (List.mem_map_of_mem hb), haccepts⟩
  · rintro ⟨before, g, after, rfl, hfails, haccepts⟩
    exact ⟨_, _, _, by rw [List.map_append, List.map_cons], List.forall_mem_map.mpr hfails,
      haccepts⟩

lemma rejects_pick_iff {e : ParseError} :
    ((Grammar.pick branches).parser rules).parse.Rejects c e c' ↔
      e = .unexpectedEnd c.offset ((Grammar.pick branches).parser rules).tag ∧ c' = c ∧
        ∀ b ∈ branches, (b.parser rules).parse.Fails c := by
  rw [parser_pick, Parser.rejects_pick_iff (orderly_branches rules branches),
    List.forall_mem_map]
  rfl

section Reached

variable (hfails : ∀ b ∈ before, (b.parser rules).parse.Fails c)

include hfails

/-- No branch behind the one that succeeds is run. -/
lemma exists_parse_pick_eq (haccepts : (g.parser rules).parse.Accepts c v c') :
    ∃ n, ∀ after, ((Grammar.pick (before ++ g :: after)).parser rules).parse c
      = .ok ⟨.ok v, c', n⟩ := by
  obtain ⟨n, hn⟩ := Parser.exists_parse_pick_eq (orderly_branches rules before)
    (g.orderly_parse rules) (List.forall_mem_map.mpr hfails) haccepts
  refine ⟨n, fun after => ?_⟩
  rw [parser_pick, List.map_append, List.map_cons]
  exact hn _

lemma parse_pick_eq_error {fault : Fault} (hfault : (g.parser rules).parse c = .error fault) :
    ((Grammar.pick (before ++ g :: after)).parser rules).parse c = .error fault := by
  rw [parser_pick, List.map_append, List.map_cons]
  exact Parser.parse_pick_eq_error (orderly_branches rules before) (g.orderly_parse rules)
    (List.forall_mem_map.mpr hfails) hfault _

end Reached

/-- A choice reads what the first of its branches that succeeds reads when run alone. The branches
behind that one are not run: the reply is the same whatever grammars stand there, be it some that give
no reply or that count attempts. If every branch fails, so does the choice, at the offset where it
stands, and the cursor is as it was. If a branch that is reached gives no reply, nor does the choice.
Inlining choices anywhere in a grammar and in its rules changes neither success nor the value nor the
cursor that is left. -/
theorem pick_takes_first (rules : Rules) (branches : List Grammar) (c : Cursor) :
    let parse := fun g : Grammar => (g.parser rules).parse
    (∀ v c', (parse (.pick branches)).Accepts c v c' ↔
      ∃ before g after, branches = before ++ g :: after ∧ (∀ b ∈ before, (parse b).Fails c) ∧
        (parse g).Accepts c v c') ∧
    (∀ before g v c', (∀ b ∈ before, (parse b).Fails c) → (parse g).Accepts c v c' →
      ∃ n, ∀ after, parse (.pick (before ++ g :: after)) c = .ok ⟨.ok v, c', n⟩) ∧
    (∀ e c', (parse (.pick branches)).Rejects c e c' ↔
      e = .unexpectedEnd c.offset ((Grammar.pick branches).parser rules).tag ∧ c' = c ∧
        ∀ b ∈ branches, (parse b).Fails c) ∧
    (∀ before g after fault, (∀ b ∈ before, (parse b).Fails c) → parse g c = .error fault →
      parse (.pick (before ++ g :: after)) c = .error fault) ∧
    ∀ rules' g g', rules.Rewrites Inlines rules' → g.Rewrites Inlines g' →
      (∀ v c', (parse g).Accepts c v c' ↔ (g'.parser rules').parse.Accepts c v c') ∧
      ∀ c', (∃ e, (parse g).Rejects c e c') ↔ ∃ e, (g'.parser rules').parse.Rejects c e c' := by
  intro parse
  refine ⟨fun v c' => accepts_pick_iff, fun before g v c' => exists_parse_pick_eq,
    fun e c' => rejects_pick_iff,
    fun before g after fault hfails hfault => parse_pick_eq_error hfails hfault,
    fun rules' g g' hrules hg => ?_⟩
  have hsame : Parse.SameOutcome _ (g.parser rules).parse (g'.parser rules').parse :=
    hg.parse_parser Parse.SameOutcome.congruence (fun _ hrule _ _ h => h.akin hrule) hrules
  exact ⟨fun v c' => Parse.UpTo.accepts_iff hsame, fun c' => hsame.exists_rejects_iff⟩

/-- The first branch reads on and fails, the third would read more, and the second decides. The choice
is nested in a rule that is repeated, and inlined there. -/
theorem pick_takes_first_letter :
    let before := [Grammar.few [.many (.literal "a"), .literal "x"]]
    let g := Grammar.literal "a"
    let nested := [("letter", Grammar.pick ([] ++ .pick (before ++ [g]) :: [.token .greedyString]))]
    let flat := [("letter", Grammar.pick ([] ++ (before ++ [g]) ++ [.token .greedyString]))]
    let letters := Grammar.many (.lazy "letter")
    let values := Value.list [.str "a", .str "a", .str "b", .str ""]
    let c := Cursor.ofString "aab"
    (∀ b ∈ before, (b.parser nested).parse.Fails c) ∧
      (g.parser nested).parse.Accepts c (.str "a") (c.past ['a']) ∧
      (∃ n, ∀ after, ((pick (before ++ g :: after)).parser nested).parse c
        = .ok ⟨.ok (.str "a"), c.past ['a'], n⟩) ∧
      (letters.parser nested).parse.Accepts c values (c.past ['a', 'a', 'b']) ∧
      (letters.parser flat).parse.Accepts c values (c.past ['a', 'a', 'b']) := by
  intro before g nested flat letters values c
  have hfails : ∀ b ∈ before, (b.parser nested).parse.Fails c := by
    intro b hb
    obtain rfl := List.mem_singleton.mp hb
    exact ⟨.unexpectedSymbol 3 "b" "x (full string: x)", c.past ['a', 'a', 'b'], 0, by decide +kernel⟩
  have hg : (g.parser nested).parse.Accepts c (.str "a") (c.past ['a']) := ⟨0, by decide +kernel⟩
  have hletters : (letters.parser nested).parse.Accepts c values (c.past ['a', 'a', 'b']) :=
    ⟨0, by decide +kernel⟩
  have hrules : Rules.Rewrites Inlines nested flat := .cons ⟨rfl, .here (.pick _ _ _)⟩ .nil
  have hpick := pick_takes_first nested (before ++ [g]) c
  exact ⟨hfails, hg, hpick.2.1 before g _ _ hfails hg, hletters,
    ((hpick.2.2.2.2 flat letters letters hrules (.refl letters)).1 _ _).mp hletters⟩

end Grammar

end Parlance
