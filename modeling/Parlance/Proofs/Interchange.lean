import Parlance.Proofs.References
import Parlance.Proofs.UpTo

/-!
# Grammars that stand for others

A reference stands for the grammar of its rule, and under a map that changes nothing or in
parentheses a grammar stands for itself: to parse with the one is to parse with the other
(`Grammar.StandsFor.parse_eq`). They differ in their names, which the error of a choice quotes, and
in whether they skip blanks before they are attempted or leave that to their parts, which only
`spanned` can tell. So inside a grammar without spans one can be put in place of the other, and
nothing but the names in errors changes (`Grammar.interchange_transparent`).
-/

namespace Parlance

open Parlance.Parser

/-! ## Errors up to the tags they quote -/

/-- Errors that are the same, or differ only in the tags that the error of a choice quotes. -/
inductive ParseError.SameButTags : ParseError → ParseError → Prop
  | same (e : ParseError) : SameButTags e e
  | tags (offset : ℕ) {tags tags' : List String} : tags.length = tags'.length →
    SameButTags (.unexpectedEnd offset ("pick(" ++ " | ".intercalate tags ++ ")"))
      (.unexpectedEnd offset ("pick(" ++ " | ".intercalate tags' ++ ")"))

lemma Parse.UpTo.contextual_sameButTags : Contextual (Parse.UpTo ParseError.SameButTags) := by
  refine Parse.UpTo.contextual .same fun {α ps qs} offset hlength => ?_
  unfold pickTag describe
  exact .tags offset (by rw [List.length_map, List.length_map, hlength])

namespace Grammar

/-! ## Standing for another grammar -/

/-- A grammar that parses as another one does by its construction. -/
inductive StandsFor (rules : Rules) : Grammar → Grammar → Prop
  /-- A reference stands for the rule. -/
  | rule {name : String} {g : Grammar} :
    List.lookup name rules = some g → StandsFor rules (.lazy name) g
  /-- A map that changes nothing stands for what it maps. -/
  | map (tag : String) (g : Grammar) : StandsFor rules (.map tag .identity g) g
  | grouped (g : Grammar) : StandsFor rules (.grouped g) g

/-- `g.Interchange rules g'`: somewhere in `g` a grammar is replaced by one that stands for it or for
which it stands, and this gives `g'`. -/
inductive Interchange (rules : Rules) : Grammar → Grammar → Prop
  | here {g g' : Grammar} : StandsFor rules g g' ∨ StandsFor rules g' g → Interchange rules g g'
  /-- The replacement is in one part, and the others stay. -/
  | inside {g part part' : Grammar} {before after : List Grammar} :
    g.parts [] = before ++ part :: after → Interchange rules part part' →
    Interchange rules g (g.withParts (before ++ part' :: after))

/-- Whether a grammar asks for the span of what it reads. -/
def isSpanned : Grammar → Bool
  | .spanned _ => true
  | _ => false

/-- Parsing with a grammar that stands for another is parsing with the other one. -/
lemma StandsFor.parse_eq {rules : Rules} {g g' : Grammar} (h : StandsFor rules g g') :
    (g.parser rules).parse = (g'.parser rules).parse := by
  cases h with
  | @rule name _ hname => exact Rules.run_eq_parse hname
  | map tag g =>
    show (g'.parser rules).parse >>= (fun v => pure v) = (g'.parser rules).parse
    exact bind_pure _
  | grouped g => rfl

end Grammar

/-! ## Contexts without spans -/

lemma Parser.parse_metered {α : Type} (p : Parser α) : (metered p).parse = p.parse.counted := rfl

/-- But for spans, the parse of a grammar depends on how its parts parse and on nothing else about
them. -/
lemma Contextual.parse_withParts {R : ∀ α : Type, Parse α → Parse α → Prop} (h : Contextual R)
    {rule : String → Parse Value} (g : Grammar) (hg : g.isSpanned = false) {parts' : List Grammar}
    (hparts : List.Forall₂
      (fun part part' => R Value (part.parserWith rule).parse (part'.parserWith rule).parse)
      (g.parts []) parts') :
    R Value (g.parserWith rule).parse ((g.withParts parts').parserWith rule).parse := by
  by_cases hparses : g.parsesParts = true
  · exact h.parse_akin (h.akin_withParts_of_parsesParts g hparses hparts)
  · cases g with
    | spanned g => cases hg
    | grouped g =>
      obtain ⟨g', rfl, hpart⟩ := exists_eq_singleton_of_forall₂ hparts
      exact hpart
    | metered g =>
      obtain ⟨g', rfl, hpart⟩ := exists_eq_singleton_of_forall₂ hparts
      show R Value (metered (g.parserWith rule)).parse (metered (g'.parserWith rule)).parse
      rw [Parser.parse_metered, Parser.parse_metered]
      exact h.counted hpart
    | _ => exact absurd rfl hparses

namespace Grammar

variable {rules : Rules} {g g' : Grammar}

/-- An interchange in a grammar without spans leaves the answers as they are, up to tags. -/
lemma Interchange.parse_upTo (h : g.Interchange rules g')
    (hspans : ∀ node, g.Contains [] node → node.isSpanned = false) :
    Parse.UpTo ParseError.SameButTags Value (g.parser rules).parse (g'.parser rules).parse := by
  have hcontextual := Parse.UpTo.contextual_sameButTags
  induction h with
  | here hgg' =>
    rcases hgg' with hstands | hstands
    · rw [hstands.parse_eq]
      exact hcontextual.refl _
    · rw [hstands.parse_eq]
      exact hcontextual.refl _
  | @inside g part part' before after hparts _ ih =>
    have hpart : part ∈ g.parts [] := by
      rw [hparts]
      exact List.mem_append_right before List.mem_cons_self
    have hrelated := ih fun node hnode => hspans node (.part hpart hnode)
    have hsame : ∀ gs : List Grammar, List.Forall₂
        (fun part part' => Parse.UpTo ParseError.SameButTags Value
          (part.parserWith rules.run).parse (part'.parserWith rules.run).parse) gs gs :=
      fun gs => List.forall₂_same.mpr fun part _ => hcontextual.refl _
    refine hcontextual.parse_withParts g (hspans g (.self g)) ?_
    rw [hparts]
    exact List.rel_append (hsame before) (.cons hrelated (hsame after))

/-- In a grammar without spans, a reference and its rule can be put in one another's place anywhere,
and a map that changes nothing and parentheses can be put around any part or taken away. From every
cursor there is an answer before if there is one afterwards: the same value and the same cursor, or
an error that differs at most in the tags that it quotes, and the same cursor. -/
theorem interchange_transparent (rules : Rules)
    (hspans : ∀ node, g.Contains [] node → node.isSpanned = false)
    (h : g.Interchange rules g') (c : Cursor) :
    let parse := fun g : Grammar => (g.parser rules).parse
    (∀ fault, parse g c = .error fault ↔ parse g' c = .error fault) ∧
      (∀ v c', (parse g).Accepts c v c' ↔ (parse g').Accepts c v c') ∧
      (∀ e c', (parse g).Rejects c e c' →
        ∃ e', (parse g').Rejects c e' c' ∧ ParseError.SameButTags e e') ∧
      ∀ e' c', (parse g').Rejects c e' c' →
        ∃ e, (parse g).Rejects c e c' ∧ ParseError.SameButTags e e' := by
  intro parse
  have hupTo := h.parse_upTo hspans
  exact ⟨fun fault => hupTo.eq_error_iff, fun v c' => hupTo.accepts_iff,
    fun e c' => hupTo.exists_rejects, fun e' c' => hupTo.exists_rejects_left⟩

/-- Lists inside one another, whose rule is put in place of a reference below a choice. The error of
the choice quotes the tag of the one or of the other. -/
theorem interchange_transparent_list :
    let list := Grammar.few [.literal "[", .many (.lazy "list"), .literal "]"]
    let rules : Rules := [("list", list)]
    let g := Grammar.pick [.lazy "list", .literal "x"]
    let g' := Grammar.pick [list, .literal "x"]
    let c := Cursor.ofString "[[] "
    let e := ParseError.unexpectedEnd 0 "pick(lazy | x)"
    g.Interchange rules g' ∧ (∀ node, g.Contains [] node → node.isSpanned = false) ∧
      (g.parser rules).parse.Rejects c e c ∧
      ∃ e', (g'.parser rules).parse.Rejects c e' c ∧ ParseError.SameButTags e e' := by
  intro list rules g g' c e
  have hparts : g.parts [] = [] ++ .lazy "list" :: [.literal "x"] := rfl
  have hinterchange : g.Interchange rules g' := .inside hparts (.here (Or.inl (.rule rfl)))
  have hspans : ∀ node, g.Contains [] node → node.isSpanned = false := by
    intro node hnode
    have hmem : node ∈ [g, .lazy "list", .literal "x"] :=
      hnode.induct (by simp [g, parts]) List.mem_cons_self
    simp only [List.mem_cons, List.not_mem_nil, or_false] at hmem
    rcases hmem with rfl | rfl | rfl <;> rfl
  have hrejects : (g.parser rules).parse.Rejects c e c := ⟨0, by decide +kernel⟩
  exact ⟨hinterchange, hspans, hrejects,
    (interchange_transparent rules hspans hinterchange c).2.2.1 e c hrejects⟩

/-- Below `spanned` it can be told who skips the blanks. -/
example :
    let span := fun g : Grammar => ((Grammar.spanned g).parser []).parse (.ofString " a")
    (span (.literal "a")).map (·.result) = .ok (.ok (.list [.str "a", .nat 1, .nat 2]))
      ∧ (span (.map "same" .identity (.literal "a"))).map (·.result)
        = .ok (.ok (.list [.str "a", .nat 0, .nat 2])) := by
  decide +kernel

end Grammar

end Parlance
