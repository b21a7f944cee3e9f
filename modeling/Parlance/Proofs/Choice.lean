import Parlance.Parser.Choice
import Parlance.Proofs.Orderly

/-!
# Outcomes of choices

An ordered choice between orderly parsers is what its first successful branch is when run alone
(`accepts_pick_iff`), and leaves no trace if there is none (`rejects_pick_iff`). What stands behind that
branch is not run (`exists_parse_pick_eq`).
-/

namespace Parlance.Parser

variable {α : Type} {c c' : Cursor}

/-! ## Looking for the first success -/

lemma accepts_some_firstOf_iff {parsers : List (Parser α)}
    (horderly : ∀ p ∈ parsers, p.parse.Orderly) {a : α} :
    (firstOf parsers).Accepts c (some a) c' ↔
      ∃ before p after, parsers = before ++ p :: after ∧ (∀ q ∈ before, q.parse.Fails c)
        ∧ p.parse.Accepts c a c' := by
  induction parsers with
  | nil =>
    rw [firstOf, Parse.accepts_pure_iff]
    constructor
    · intro ⟨h, _⟩
      cases h
    · intro ⟨before, p, after, h, _⟩
      simp at h
  | cons p parsers ih =>
    have hp := horderly p List.mem_cons_self
    have ih := ih fun q hq => horderly q (List.mem_cons_of_mem p hq)
    rw [firstOf, Parse.accepts_bind_iff]
    constructor
    · -- either the first parser fails and the search goes on from the same place, or it decides
      intro hout
      rcases hout with ⟨_ | value, c₁, hfound, h⟩
      · obtain ⟨rfl, hfails⟩ := hp.accepts_none_tentatively_iff.mp hfound
        obtain ⟨before, q, after, rfl, hbefore, hq⟩ := ih.mp h
        exact ⟨p :: before, q, after, rfl, List.forall_mem_cons.mpr ⟨hfails, hbefore⟩, hq⟩
      · obtain ⟨heq, rfl⟩ := Parse.accepts_pure_iff.mp h
        cases heq
        exact ⟨[], p, parsers, rfl, List.forall_mem_nil _,
          hp.accepts_some_tentatively_iff.mp hfound⟩
    · intro hout
      rcases hout with ⟨_ | ⟨q, before⟩, r, after, heq, hbefore, hr⟩
      · rw [List.nil_append, List.cons.injEq] at heq
        obtain ⟨rfl, rfl⟩ := heq
        exact ⟨some a, c', hp.accepts_some_tentatively_iff.mpr hr,
          Parse.accepts_pure_iff.mpr ⟨rfl, rfl⟩⟩
      · rw [List.cons_append, List.cons.injEq] at heq
        obtain ⟨rfl, rfl⟩ := heq
        obtain ⟨hfails, hbefore⟩ := List.forall_mem_cons.mp hbefore
        exact ⟨none, c, hp.accepts_none_tentatively_iff.mpr ⟨rfl, hfails⟩,
          ih.mpr ⟨before, r, after, rfl, hbefore, hr⟩⟩

lemma accepts_none_firstOf_iff {parsers : List (Parser α)}
    (horderly : ∀ p ∈ parsers, p.parse.Orderly) :
    (firstOf parsers).Accepts c none c' ↔ c' = c ∧ ∀ p ∈ parsers, p.parse.Fails c := by
  induction parsers with
  | nil => simp [firstOf]
  | cons p parsers ih =>
    have hp := horderly p List.mem_cons_self
    have ih := ih fun q hq => horderly q (List.mem_cons_of_mem p hq)
    rw [firstOf, Parse.accepts_bind_iff, List.forall_mem_cons]
    constructor
    · intro hout
      rcases hout with ⟨_ | value, c₁, hfound, h⟩
      · obtain ⟨rfl, hfails⟩ := hp.accepts_none_tentatively_iff.mp hfound
        obtain ⟨rfl, hrest⟩ := ih.mp h
        exact ⟨rfl, hfails, hrest⟩
      · simp at h
    · intro hout
      rcases hout with ⟨rfl, hfails, hrest⟩
      exact ⟨none, c', hp.accepts_none_tentatively_iff.mpr ⟨rfl, hfails⟩, ih.mpr ⟨rfl, hrest⟩⟩

lemma not_rejects_firstOf {parsers : List (Parser α)} {e : ParseError} :
    ¬ (firstOf parsers).Rejects c e c' := by
  induction parsers generalizing c with
  | nil => exact Parse.not_rejects_pure
  | cons p parsers ih =>
    rw [firstOf, Parse.rejects_bind_iff]
    intro hout
    rcases hout with h | ⟨_ | value, c₁, -, h⟩
    · exact Parse.not_rejects_tentatively h
    · exact ih h
    · exact Parse.not_rejects_pure h

/-- Parsers that fail are passed over, whatever parsers stand behind them. -/
lemma exists_firstOf_append_eq {before : List (Parser α)}
    (horderly : ∀ p ∈ before, p.parse.Orderly) (hfails : ∀ p ∈ before, p.parse.Fails c) :
    ∃ n, ∀ others, firstOf (before ++ others) c
      = (firstOf others c).map fun reply => { reply with attempts := n + reply.attempts } := by
  induction before with
  | nil =>
    refine ⟨0, fun others => ?_⟩
    rw [List.nil_append]
    rcases firstOf others c with fault | reply <;> simp [Except.map]
  | cons p before ih =>
    obtain ⟨hp, hbefore⟩ := List.forall_mem_cons.mp hfails
    obtain ⟨n, hn⟩ := ih (fun q hq => horderly q (List.mem_cons_of_mem p hq)) hbefore
    obtain ⟨m, hm⟩ :=
      (horderly p List.mem_cons_self).accepts_none_tentatively_iff.mpr ⟨rfl, hp⟩
    refine ⟨m + n, fun others => ?_⟩
    rw [List.cons_append, firstOf, Parse.bind_apply, hm]
    dsimp only
    rw [hn]
    rcases firstOf others c with fault | reply <;> simp [Except.map, Nat.add_assoc]

/-- Behind a success nothing is run: the reply is the same whatever parsers stand there. -/
lemma exists_firstOf_eq {before : List (Parser α)} {p : Parser α}
    (horderly : ∀ q ∈ before, q.parse.Orderly) (hp : p.parse.Orderly)
    (hfails : ∀ q ∈ before, q.parse.Fails c) {a : α} (haccepts : p.parse.Accepts c a c') :
    ∃ n, ∀ others, firstOf (before ++ p :: others) c = .ok ⟨.ok (some a), c', n⟩ := by
  obtain ⟨n, hn⟩ := exists_firstOf_append_eq horderly hfails
  obtain ⟨m, hm⟩ := hp.accepts_some_tentatively_iff.mpr haccepts
  refine ⟨n + m, fun others => ?_⟩
  rw [hn, firstOf, Parse.bind_apply, hm]
  rfl

/-- Without a reply of a parser that is run there is none of the search. -/
lemma firstOf_eq_error {before : List (Parser α)} {p : Parser α} {fault : Fault}
    (horderly : ∀ q ∈ before, q.parse.Orderly) (hp : p.parse.Orderly)
    (hfails : ∀ q ∈ before, q.parse.Fails c) (hfault : p.parse c = .error fault)
    (others : List (Parser α)) : firstOf (before ++ p :: others) c = .error fault := by
  obtain ⟨n, hn⟩ := exists_firstOf_append_eq horderly hfails
  rw [hn, firstOf, Parse.bind_apply, Parse.Orderly.tentatively_eq, hp.speculate_eq, hfault]
  rfl

/-- The search in two lists, one after the other. -/
lemma firstOf_append (ps qs : List (Parser α)) :
    firstOf (ps ++ qs) = (do
      match ← firstOf ps with
      | some value => pure (some value)
      | none => firstOf qs) := by
  induction ps with
  | nil => rw [List.nil_append, firstOf, pure_bind]
  | cons p ps ih =>
    rw [List.cons_append, firstOf, firstOf, bind_assoc]
    congr 1
    funext found
    cases found with
    | some value => exact (pure_bind _ _).symm
    | none => exact ih

/-! ## Ordered choice -/

/-- The first branch that succeeds decides, and is run from where the choice stands. -/
theorem accepts_pick_iff {branches : List (Parser α)}
    (horderly : ∀ p ∈ branches, p.parse.Orderly) {a : α} :
    (pick branches).parse.Accepts c a c' ↔
      ∃ before p after, branches = before ++ p :: after ∧ (∀ q ∈ before, q.parse.Fails c)
        ∧ p.parse.Accepts c a c' := by
  rw [← accepts_some_firstOf_iff horderly]
  show Parse.Accepts (firstOf branches >>= _) c a c' ↔ _
  rw [Parse.accepts_bind_iff]
  constructor
  · intro hout
    rcases hout with ⟨_ | value, c₁, hfound, h⟩
    · exact absurd h Parse.not_accepts_fail
    · obtain ⟨rfl, rfl⟩ := Parse.accepts_pure_iff.mp h
      exact hfound
  · intro h
    exact ⟨some a, c', h, Parse.accepts_pure_iff.mpr ⟨rfl, rfl⟩⟩

/-- If all branches fail, so does the choice, and the cursor is as it was. -/
theorem rejects_pick_iff {branches : List (Parser α)}
    (horderly : ∀ p ∈ branches, p.parse.Orderly) {e : ParseError} :
    (pick branches).parse.Rejects c e c' ↔
      e = c.unexpectedEnd (pickTag branches) ∧ c' = c ∧ ∀ p ∈ branches, p.parse.Fails c := by
  show Parse.Rejects (firstOf branches >>= _) c e c' ↔ _
  rw [Parse.rejects_bind_iff]
  constructor
  · intro hout
    rcases hout with h | ⟨_ | value, c₁, hfound, h⟩
    · exact absurd h not_rejects_firstOf
    · obtain ⟨rfl, hfails⟩ := (accepts_none_firstOf_iff horderly).mp hfound
      obtain ⟨rfl, rfl⟩ := h.unique (Parse.rejects_fail _ _)
      exact ⟨rfl, rfl, hfails⟩
    · exact absurd h Parse.not_rejects_pure
  · intro hout
    rcases hout with ⟨rfl, rfl, hfails⟩
    exact Or.inr ⟨none, c', (accepts_none_firstOf_iff horderly).mpr ⟨rfl, hfails⟩,
      Parse.rejects_fail _ _⟩

/-- The branches behind the one that is taken are not run. -/
theorem exists_parse_pick_eq {before : List (Parser α)} {p : Parser α}
    (horderly : ∀ q ∈ before, q.parse.Orderly) (hp : p.parse.Orderly)
    (hfails : ∀ q ∈ before, q.parse.Fails c) {a : α} (haccepts : p.parse.Accepts c a c') :
    ∃ n, ∀ others, (pick (before ++ p :: others)).parse c = .ok ⟨.ok a, c', n⟩ := by
  obtain ⟨n, hn⟩ := exists_firstOf_eq horderly hp hfails haccepts
  refine ⟨n, fun others => ?_⟩
  show (firstOf (before ++ p :: others) >>= _) c = _
  rw [Parse.bind_apply, hn]
  rfl

theorem parse_pick_eq_error {before : List (Parser α)} {p : Parser α} {fault : Fault}
    (horderly : ∀ q ∈ before, q.parse.Orderly) (hp : p.parse.Orderly)
    (hfails : ∀ q ∈ before, q.parse.Fails c) (hfault : p.parse c = .error fault)
    (others : List (Parser α)) : (pick (before ++ p :: others)).parse c = .error fault := by
  show (firstOf (before ++ p :: others) >>= _) c = _
  rw [Parse.bind_apply, firstOf_eq_error horderly hp hfails hfault]

lemma fails_pick_iff {branches : List (Parser α)} (horderly : ∀ p ∈ branches, p.parse.Orderly) :
    (pick branches).parse.Fails c ↔ ∀ p ∈ branches, p.parse.Fails c := by
  constructor
  · intro ⟨e, c', h⟩
    exact ((rejects_pick_iff horderly).mp h).2.2
  · intro h
    exact ⟨_, c, (rejects_pick_iff horderly).mpr ⟨rfl, rfl, h⟩⟩

/-! ## Options -/

lemma accepts_some_optional_iff {p : Parser α} (hp : p.parse.Orderly) {a : α} :
    (optional p).parse.Accepts c (some a) c' ↔ p.parse.Accepts c a c' :=
  hp.accepts_some_tentatively_iff

lemma accepts_none_optional_iff {p : Parser α} (hp : p.parse.Orderly) :
    (optional p).parse.Accepts c none c' ↔ c' = c ∧ p.parse.Fails c :=
  hp.accepts_none_tentatively_iff

lemma not_rejects_optional {p : Parser α} {e : ParseError} :
    ¬ (optional p).parse.Rejects c e c' :=
  Parse.not_rejects_tentatively

end Parlance.Parser
