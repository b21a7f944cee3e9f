import Parlance.Proofs.Frame

/-!
# Rewriting inside a grammar

A relation between parses is `Contextual` if it is compositional and reflexive and does not see by
what names a choice calls its branches when it fails. The names of parsers then do not matter: a
part of a grammar can be replaced by one whose parser is related to it, and the parser of the whole
is related to what it was (`Contextual.akin_withParts`). It is a `Congruence` if it is transitive as
well.

`Grammar.Rewrites step` closes a way `step` to replace grammars under the grammars around them, so
that steps can be taken at any depth and any number of times, and `Rules.Rewrites step` does so in all
rules of a table. If a step relates parsers, so does rewriting (`Grammar.Rewrites.akin`,
`Grammar.Rewrites.parse_parser`).
-/

namespace Parlance

open Parlance.Parser

/-- A compositional relation between parses run from the same cursor that is reflexive, passes to
speculative runs, and does not see what the branches of a choice are called. -/
structure Contextual (R : ∀ α : Type, Parse α → Parse α → Prop) : Prop
    extends Compositional Eq R where
  refl : ∀ {α} (p : Parse α), R α p p
  speculate : TakesBack R
  ended : ∀ {α} {ps qs : List (Parser α)}, ps.length = qs.length →
    R α (Parse.fail (Cursor.unexpectedEnd (pickTag ps)))
      (Parse.fail (Cursor.unexpectedEnd (pickTag qs)))

/-- A contextual relation that is transitive. -/
structure Congruence (R : ∀ α : Type, Parse α → Parse α → Prop) : Prop
    extends Contextual R where
  trans : ∀ {α} {p q r : Parse α}, R α p q → R α q r → R α p r

/-- Parsers that skip blanks alike and whose attempts are related, under whatever names. -/
structure Parser.Akin (R : ∀ α : Type, Parse α → Parse α → Prop) {α : Type}
    (p q : Parser α) : Prop where
  skipsBlank_eq : p.skipsBlank = q.skipsBlank
  attempt : R α p.attempt q.attempt

lemma Parser.Alike.akin {R : ∀ α : Type, Parse α → Parse α → Prop} {α : Type} {p q : Parser α}
    (h : Alike R p q) : Akin R p q := ⟨h.skipsBlank_eq, h.attempt⟩

/-! ## Grammars with other parts -/

namespace Grammar

/-- The grammar with other parts in place of its own, as many as it has. -/
def withParts : Grammar → List Grammar → Grammar
  | .positional name _, [kind] => .positional name kind
  | .argument name required _, [kind] => .argument name required kind
  | .few _, gs => .few gs
  | .pick _, gs => .pick gs
  | .unordered _, gs => .unordered gs
  | .many _, [g] => .many g
  | .sequence _, [g] => .sequence g
  | .optional _, [g] => .optional g
  | .only _, [g] => .only g
  | .verbatim _, [g] => .verbatim g
  | .spanned _, [g] => .spanned g
  | .grouped _, [g] => .grouped g
  | .metered _, [g] => .metered g
  | .map tag finish _, [g] => .map tag finish g
  | g, _ => g

/-- Whether the parser of a grammar does nothing with those of its parts but parse with them. The
others attempt to read with them, or are the parser of their part. -/
def parsesParts : Grammar → Bool
  | .spanned _ | .grouped _ | .metered _ => false
  | _ => true

end Grammar

lemma seesPlace_eq : SeesPlace (@Eq Cursor) := fun hcd => congrArg Cursor.place hcd

lemma exists_eq_singleton_of_forall₂ {α β : Type} {S : α → β → Prop} {a : α} {bs : List β}
    (h : List.Forall₂ S [a] bs) : ∃ b, bs = [b] ∧ S a b := by
  obtain ⟨b, rest, hb, hrest, rfl⟩ := List.forall₂_cons_left_iff.mp h
  rw [List.forall₂_nil_left_iff.mp hrest]
  exact ⟨b, rfl, hb⟩

lemma Congruence.akin_trans {R : ∀ α : Type, Parse α → Parse α → Prop} (h : Congruence R)
    {α : Type} {p q r : Parser α} (hpq : Akin R p q) (hqr : Akin R q r) : Akin R p r :=
  ⟨hpq.skipsBlank_eq.trans hqr.skipsBlank_eq, h.trans hpq.attempt hqr.attempt⟩

namespace Contextual

variable {R : ∀ α : Type, Parse α → Parse α → Prop} {α : Type} {p q : Parser α}
  {rule : String → Parse Value}

lemma akin_refl (h : Contextual R) (p : Parser α) : Akin R p p := ⟨rfl, h.refl p.attempt⟩

lemma parse_akin (h : Contextual R) (hpq : Akin R p q) : R α p.parse q.parse :=
  h.parseOf hpq.skipsBlank_eq hpq.attempt

lemma parsesAlike {gs gs' : List Grammar}
    (hparts : List.Forall₂
      (fun g g' => R Value (g.parserWith rule).parse (g'.parserWith rule).parse) gs gs') :
    ParsesAlike R (Grammar.parsersWith rule gs) (Grammar.parsersWith rule gs') := by
  rw [Grammar.parsersWith_eq_map, Grammar.parsersWith_eq_map]
  exact List.forall₂_map_left_iff.mpr (List.forall₂_map_right_iff.mpr hparts)

/-- Most grammars only parse with their parts, so it is enough that these parses are related. -/
lemma akin_withParts_of_parsesParts (h : Contextual R) (g : Grammar) (hg : g.parsesParts = true)
    {parts' : List Grammar}
    (hparts : List.Forall₂
      (fun part part' => R Value (part.parserWith rule).parse (part'.parserWith rule).parse)
      (g.parts []) parts') :
    Akin R (g.parserWith rule) ((g.withParts parts').parserWith rule) := by
  cases g with
  | few gs => exact ⟨rfl, h.bind (h.parseAll (parsesAlike hparts)) fun _ => h.pure _⟩
  | pick gs =>
    have hbranches := parsesAlike hparts
    exact ⟨rfl, h.attempt_pick hbranches (h.ended hbranches.length_eq)⟩
  | unordered gs =>
    exact ⟨rfl, h.bind (h.attempt_unordered (parsesAlike hparts)) fun _ => h.pure _⟩
  | positional name kind =>
    obtain ⟨kind', rfl, hkind⟩ := exists_eq_singleton_of_forall₂ hparts
    exact (h.positional name hkind).akin
  | argument name required kind =>
    obtain ⟨kind', rfl, hkind⟩ := exists_eq_singleton_of_forall₂ hparts
    exact (h.argument name required hkind).akin
  | many g =>
    obtain ⟨g', rfl, hg⟩ := exists_eq_singleton_of_forall₂ hparts
    exact ⟨rfl, h.bind (h.repeatAhead hg) fun _ => h.pure _⟩
  | sequence g =>
    obtain ⟨g', rfl, hg⟩ := exists_eq_singleton_of_forall₂ hparts
    exact ⟨rfl, h.bind (h.attempt_sequence hg) fun _ => h.pure _⟩
  | optional g =>
    obtain ⟨g', rfl, hg⟩ := exists_eq_singleton_of_forall₂ hparts
    exact ⟨rfl, h.bind (h.tentatively hg) fun _ => h.pure _⟩
  | only g =>
    obtain ⟨g', rfl, hg⟩ := exists_eq_singleton_of_forall₂ hparts
    exact ⟨rfl, h.attempt_only h.speculate hg⟩
  | verbatim g =>
    obtain ⟨g', rfl, hg⟩ := exists_eq_singleton_of_forall₂ hparts
    exact ⟨rfl, h.verbatim hg⟩
  | map tag finish g =>
    obtain ⟨g', rfl, hg⟩ := exists_eq_singleton_of_forall₂ hparts
    exact ⟨rfl, h.bind hg fun v => h.refl (finish.run v)⟩
  | spanned g | grouped g | metered g => cases hg
  | _ => exact h.akin_refl _

/-- With related parsers for its parts, the parser of a grammar is related to what it was. -/
theorem akin_withParts (h : Contextual R) (g : Grammar) {parts' : List Grammar}
    (hparts : List.Forall₂
      (fun part part' => Akin R (part.parserWith rule) (part'.parserWith rule))
      (g.parts []) parts') :
    Akin R (g.parserWith rule) ((g.withParts parts').parserWith rule) := by
  by_cases hg : g.parsesParts = true
  · exact h.akin_withParts_of_parsesParts g hg (hparts.imp fun _ _ => h.parse_akin)
  · cases g with
    | spanned g =>
      obtain ⟨g', rfl, hg⟩ := exists_eq_singleton_of_forall₂ hparts
      have hspanned := h.attempt_spanned seesPlace_eq hg.skipsBlank_eq hg.attempt
      exact ⟨rfl, h.bind hspanned fun _ => h.pure _⟩
    | grouped g =>
      obtain ⟨g', rfl, hg⟩ := exists_eq_singleton_of_forall₂ hparts
      exact hg
    | metered g =>
      obtain ⟨g', rfl, hg⟩ := exists_eq_singleton_of_forall₂ hparts
      exact ⟨hg.skipsBlank_eq, h.counted hg.attempt⟩
    | _ => exact absurd rfl hg

end Contextual

/-! ## Rewriting -/

/-- `g.Rewrites step g'`: `g'` is `g` after any number of steps, each of which replaces a grammar
somewhere in it. -/
inductive Grammar.Rewrites (step : Grammar → Grammar → Prop) : Grammar → Grammar → Prop
  | refl (g : Grammar) : Rewrites step g g
  | here {g g' : Grammar} : step g g' → Rewrites step g g'
  /-- One part is rewritten, and the others stay. -/
  | inside {g part part' : Grammar} {before after : List Grammar} :
    g.parts [] = before ++ part :: after → Rewrites step part part' →
    Rewrites step g (g.withParts (before ++ part' :: after))
  | trans {g g' g'' : Grammar} : Rewrites step g g' → Rewrites step g' g'' → Rewrites step g g''

/-- Tables of the same names in which each rule is rewritten. -/
def Rules.Rewrites (step : Grammar → Grammar → Prop) (rules rules' : Rules) : Prop :=
  List.Forall₂ (fun entry entry' => entry.1 = entry'.1 ∧ entry.2.Rewrites step entry'.2) rules rules'

section Rewriting

variable {R : ∀ α : Type, Parse α → Parse α → Prop} {step : Grammar → Grammar → Prop}
  (h : Congruence R)

include h

/-- If steps relate parsers, so does rewriting. -/
theorem Grammar.Rewrites.akin {rule : String → Parse Value}
    (hstep : ∀ {g g'}, step g g' → Akin R (g.parserWith rule) (g'.parserWith rule))
    {g g' : Grammar} (hg : g.Rewrites step g') :
    Akin R (g.parserWith rule) (g'.parserWith rule) := by
  induction hg with
  | refl g => exact h.akin_refl _
  | here hgg' => exact hstep hgg'
  | @inside g part part' before after hparts _ ih =>
    have hsame : ∀ gs : List Grammar, List.Forall₂
        (fun part part' => Akin R (part.parserWith rule) (part'.parserWith rule)) gs gs :=
      fun gs => List.forall₂_same.mpr fun part _ => h.akin_refl _
    refine h.akin_withParts g ?_
    rw [hparts]
    exact List.rel_append (hsame before) (.cons ih (hsame after))
  | trans _ _ ih ih' => exact h.akin_trans ih ih'

omit h in
/-- A name stands for nothing in both tables, or for a rule and what it is rewritten to. -/
lemma Rules.Rewrites.lookup_cases {rules rules' : Rules} (hrules : rules.Rewrites step rules')
    (name : String) :
    List.lookup name rules = none ∧ List.lookup name rules' = none ∨
      ∃ g g', List.lookup name rules = some g ∧ List.lookup name rules' = some g' ∧
        g.Rewrites step g' := by
  induction hrules with
  | nil => exact Or.inl ⟨rfl, rfl⟩
  | @cons entry entry' rules rules' hentry _ ih =>
    obtain ⟨name₁, g⟩ := entry
    obtain ⟨name₂, g'⟩ := entry'
    obtain ⟨rfl, hg⟩ := hentry
    rw [List.lookup_cons, List.lookup_cons]
    cases name == name₁ with
    | true => exact Or.inr ⟨g, g', rfl, rfl, hg⟩
    | false => exact ih

variable (hstep : ∀ rule : String → Parse Value, (∀ name, (rule name).Orderly) →
  ∀ {g g'}, step g g' → Akin R (g.parserWith rule) (g'.parserWith rule))
  {rules rules' : Rules} (hrules : rules.Rewrites step rules')

include hstep

/-- A rewritten grammar, whose rules are read in a related way. -/
lemma Grammar.Rewrites.akin_of_rules {rule rule' : String → Parse Value}
    (hrule : ∀ name, R Value (rule name) (rule' name)) (horderly : ∀ name, (rule' name).Orderly)
    {g g' : Grammar} (hg : g.Rewrites step g') :
    Akin R (g.parserWith rule) (g'.parserWith rule') := by
  have hadmits : Compositional.Admits Eq R [] rule rule' g :=
    ⟨⟨fun _ _ _ => h.speculate, fun _ _ _ => seesPlace_eq⟩, fun name _ => hrule name⟩
  exact h.akin_trans (h.parserWith g hadmits).akin (hg.akin h (hstep rule' horderly))

include hrules

lemma Rules.Rewrites.runWithin (depth : ℕ) (name : String) :
    R Value (rules.runWithin depth name) (rules'.runWithin depth name) := by
  induction depth generalizing name with
  | zero => exact h.refl _
  | succ depth ih =>
    unfold Rules.runWithin
    rcases hrules.lookup_cases name with ⟨hnone, hnone'⟩ | ⟨g, g', hsome, hsome', hg⟩
    · rw [hnone, hnone']
      exact h.refl _
    · rw [hsome, hsome']
      exact h.parse_akin (hg.akin_of_rules h hstep ih
        (Parse.hereditary_orderly.runWithin rules' depth))

/-- Both tables give the same depth to references. -/
lemma Rules.Rewrites.run (name : String) : R Value (rules.run name) (rules'.run name) := by
  rw [Rules.run_eq_bind, Rules.run_eq_bind]
  refine h.consult fun c d hcd => ?_
  have hdepth : rules.depthFor c = rules'.depthFor d := by
    rw [Rules.depthFor, Rules.depthFor, List.Forall₂.length_eq hrules, hcd]
  rw [hdepth]
  exact hrules.runWithin h hstep _ name

/-- A grammar may be rewritten together with its rules. -/
theorem Grammar.Rewrites.parse_parser {g g' : Grammar} (hg : g.Rewrites step g') :
    R Value (g.parser rules).parse (g'.parser rules').parse :=
  h.parse_akin (hg.akin_of_rules h hstep (hrules.run h hstep)
    (Parse.hereditary_orderly.run rules'))

end Rewriting

end Parlance
