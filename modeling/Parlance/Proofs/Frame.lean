import Parlance.Proofs.Choice
import Parlance.Proofs.Hereditary

/-!
# What a grammar leaves alone

Every grammar is orderly, whatever rules it refers to: being orderly is hereditary. So a grammar
leaves the saved places and the depth of verbatim tokens as it found them, on success and on
failure and at any nesting (`keeps_frame`), and the parsers that take back what they tried take
back all of it.
-/

namespace Parlance

/-! ## Grammars are orderly -/

theorem Parse.hereditary_orderly : Hereditary fun _ p => p.Orderly where
  pure a := .pure a
  bindOf hp hf := hp.bindOf hf
  consult hf hblind := .consult hf hblind
  advance := .advance
  advanceBytes n := .modify (fun _ _ => rfl) fun c => c.exists_advanceBytes_eq n
  skipBlank := by
    refine .modify (fun c saved => ?_) Cursor.exists_skipBlank_eq
    rw [Cursor.skipBlank_eq, Cursor.skipBlank_eq]
    by_cases hverbatim : c.isVerbatim
    · rw [if_pos hverbatim]
      exact if_pos hverbatim
    · rw [if_neg hverbatim]
      exact if_neg hverbatim
  fail herror := .fail herror
  endless := .fault (by decide) (by decide)
  unknown name := .fault (by simp) (by simp)
  speculate hp := hp.speculate
  tentatively hp := hp.tentatively
  verbatim hp := hp.verbatim
  counted hp := hp.counted

/-- Being orderly is compositional, so every token is orderly. -/
lemma Parse.compositional_orderly :
    Compositional SameButSaved fun _ p q => p = q ∧ p.Orderly :=
  hereditary_orderly.compositional

lemma Parser.Alike.orderly {α : Type} {p : Parser α}
    (h : Parser.Alike (fun _ p q => p = q ∧ p.Orderly) p p) : p.parse.Orderly :=
  (Parse.compositional_orderly.parse h).2

/-- A choice between orderly parsers is orderly. -/
lemma Parser.orderly_pick {α : Type} {branches : List (Parser α)}
    (horderly : ∀ p ∈ branches, p.parse.Orderly) : (pick branches).parse.Orderly := by
  have hall : ParsesAlike (fun _ p q => p = q ∧ p.Orderly) branches branches :=
    List.forall₂_same.mpr fun p hp => ⟨rfl, horderly p hp⟩
  exact (Parse.compositional_orderly.attempt_pick hall
    (Parse.compositional_orderly.fail (.ended _))).2

lemma Grammar.orderly_parserWith {rule : String → Parse Value}
    (hrule : ∀ name, (rule name).Orderly) (g : Grammar) : (g.parserWith rule).parse.Orderly :=
  Parse.hereditary_orderly.parse (Parse.hereditary_orderly.attempt_parserWith hrule g)

lemma Grammar.orderly_attempt (rules : Rules) (g : Grammar) : (g.parser rules).attempt.Orderly :=
  Parse.hereditary_orderly.attempt_grammar rules g

lemma Grammar.orderly_parse (rules : Rules) (g : Grammar) : (g.parser rules).parse.Orderly :=
  Parse.hereditary_orderly.parse_grammar rules g

lemma Grammar.orderly_branches (rules : Rules) (gs : List Grammar) :
    ∀ p ∈ gs.map (parser rules), p.parse.Orderly := by
  intro p hp
  obtain ⟨g, -, rfl⟩ := List.mem_map.mp hp
  exact g.orderly_parse rules

/-! ## The frame -/

/-- `p`, run from `c`, ends with the saved places and the depth of verbatim tokens of `c`, and never
drops or restores a place when none is saved. -/
def Parse.KeepsFrame (p : Parse Value) (c : Cursor) : Prop :=
  match p c with
  | .ok reply => reply.cursor.saved = c.saved ∧ reply.cursor.verbatim = c.verbatim
  | .error fault => fault ≠ .unmatchedFinish ∧ fault ≠ .unmatchedRollback

lemma Parse.Orderly.keepsFrame {p : Parse Value} (hp : p.Orderly) (c : Cursor) :
    p.KeepsFrame c := by
  unfold Parse.KeepsFrame
  split
  · next reply h =>
    obtain ⟨t, -, hcursor⟩ := hp.forward h
    rw [hcursor]
    exact ⟨rfl, rfl⟩
  · next fault h => exact hp.proper h

/-- What fails under `only` because its parser fails leaves the cursor as it was. -/
lemma Parser.eq_of_rejects_only {α : Type} {p : Parser α} (hp : p.parse.Orderly) {c c' : Cursor}
    {e : ParseError} (h : (only p).parse.Rejects c e c') (hfails : p.parse.Fails c) : c' = c := by
  rcases Parse.rejects_bind_iff.mp h with h | ⟨value, c₁, h, -⟩
  · exact (hp.rejects_speculate_iff.mp h).1
  · exact absurd hfails (hp.accepts_speculate_iff.mp h).not_fails

/-- What `only` reads is what its parser reads to the end of the text. -/
lemma Parser.accepts_only_iff {α : Type} {p : Parser α} (hp : p.parse.Orderly) {c c' : Cursor}
    {a : α} : (only p).parse.Accepts c a c' ↔ p.parse.Accepts c a c' ∧ c'.isAtEnd = true := by
  show Parse.Accepts (p.parse.speculate >>= _) c a c' ↔ _
  rw [Parse.accepts_bind_iff]
  constructor
  · intro ⟨b, c₁, hread, h⟩
    rw [Parse.accepts_get_bind_iff] at h
    split at h
    · next hend =>
      obtain ⟨rfl, rfl⟩ := Parse.accepts_pure_iff.mp h
      exact ⟨hp.accepts_speculate_iff.mp hread, hend⟩
    · exact absurd h Parse.not_accepts_fail
  · intro ⟨hread, hend⟩
    refine ⟨a, c', hp.accepts_speculate_iff.mpr hread, ?_⟩
    rw [Parse.accepts_get_bind_iff, if_pos hend]
    exact Parse.accepts_pure_iff.mpr ⟨rfl, rfl⟩

/-- A grammar keeps the frame of every cursor, at any depth of saved places and verbatim tokens.
Speculation that fails, a choice without a successful branch, an option that is not there, and a
parser that fails before the end is asked for leave the whole cursor as it was. -/
theorem Grammar.keeps_frame (rules : Rules) (g : Grammar) (branches : List Grammar)
    (c : Cursor) :
    (g.parser rules).parse.KeepsFrame c ∧ (g.parser rules).attempt.KeepsFrame c ∧
      (∀ e c', (g.parser rules).parse.speculate.Rejects c e c' → c' = c) ∧
      (∀ e c', ((Grammar.pick branches).parser rules).parse.Rejects c e c' → c' = c) ∧
      (∀ c', (Parser.optional (g.parser rules)).parse.Accepts c none c' → c' = c) ∧
      (∀ e c', ((Grammar.only g).parser rules).parse.Rejects c e c' →
        (g.parser rules).parse.Fails c → c' = c) := by
  have hg := g.orderly_parse rules
  refine ⟨hg.keepsFrame c, (g.orderly_attempt rules).keepsFrame c, ?_, ?_, ?_, ?_⟩
  · intro e c' h
    exact (hg.rejects_speculate_iff.mp h).1
  · intro e c' h
    have hpick : (Grammar.pick branches).parser rules
        = Parser.pick (branches.map (Grammar.parser rules)) := by
      rw [Grammar.parser, Grammar.parserWith, Grammar.parsersWith_eq_map]
      rfl
    rw [hpick] at h
    exact ((Parser.rejects_pick_iff (Grammar.orderly_branches rules branches)).mp h).2.1
  · intro c' h
    exact ((Parser.accepts_none_optional_iff hg).mp h).1
  · intro e c' h hfails
    exact Parser.eq_of_rejects_only hg h hfails

end Parlance
