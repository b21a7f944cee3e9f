import Parlance.Grammar

/-!
# Rules

A table of named grammars that refer to one another. A rule that is referred to is parsed as its
grammar says, from where the cursor stands.

Rules that come back to themselves without having read anything never end. `Rules.runWithin` gives
up when references are nested too deep; `Rules.run` chooses the depth so that it does so only for
rules that would not end: within one text, more nested references than there are rules, places and
modes of skipping blanks must meet the same rule twice in the same situation.
-/

namespace Parlance

/-- Grammars by name. -/
abbrev Rules : Type := List (String × Grammar)

namespace Rules

/-- What a rule reads, with at most `depth` references inside one another. -/
def runWithin (rules : Rules) : (depth : Nat) → (name : String) → Parse Value
  | 0, _ => Parse.fault .endlessRecursion
  | depth + 1, name =>
    match List.lookup name rules with
    | some g => (g.parserWith (runWithin rules depth)).parse
    | none => Parse.fault (.unknownRule name)

/-- A depth that suffices for rules that end. -/
def depthFor (rules : Rules) (c : Cursor) : Nat :=
  2 * rules.length * (c.place.source.length + 1) + 1

/-- What a rule reads. -/
def run (rules : Rules) (name : String) : Parse Value := fun c =>
  rules.runWithin (rules.depthFor c) name c

end Rules

/-- The parser that a grammar describes, together with the rules it refers to. -/
def Grammar.parser (rules : Rules) (g : Grammar) : Parser Value := g.parserWith rules.run

end Parlance
