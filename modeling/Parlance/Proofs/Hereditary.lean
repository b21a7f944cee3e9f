import Parlance.Proofs.Compositional.Grammar

/-!
# Hereditary properties of parses

A property of parses that the steps have and that sequencing, speculation and the like pass on is
`Hereditary`, and then every parser has it. This is the case of a compositional relation in which
both parses are the same one and are run from the same place (`Hereditary.compositional`). So the
parsers of this library inherit the property from their parts, and by induction every grammar has it
with all its rules (`Hereditary.attempt_grammar`).
-/

namespace Parlance

/-- A property that holds of every step and is passed on by every way to combine parses. -/
structure Hereditary (P : ∀ α : Type, Parse α → Prop) : Prop where
  pure : ∀ {α} (a : α), P α (pure a)
  /-- What comes second only matters for values that the first parse reads. -/
  bindOf : ∀ {α β} {p : Parse α} {f : α → Parse β}, P α p →
    (∀ a, (∃ c c', p.Accepts c a c') → P β (f a)) → P β (p >>= f)
  /-- The cursor may be looked at, but not its saved places. -/
  consult : ∀ {α} {f : Cursor → Parse α}, (∀ c, P α (f c)) →
    (∀ c saved, f (c.withSaved saved) = f c) → P α (Parse.get >>= f)
  advance : P _ Parse.advance
  advanceBytes : ∀ n, P _ (Parse.modify (·.advanceBytes n))
  skipBlank : P _ (Parse.modify Cursor.skipBlank)
  fail : ∀ {α} {error : Cursor → ParseError},
    (∀ c saved, error (c.withSaved saved) = error c) → P α (Parse.fail error)
  endless : ∀ {α}, P α (Parse.fault .endlessRecursion)
  unknown : ∀ {α} name, P α (Parse.fault (.unknownRule name))
  speculate : ∀ {α} {p : Parse α}, P α p → P α p.speculate
  tentatively : ∀ {α} {p : Parse α}, P α p → P _ p.tentatively
  verbatim : ∀ {α} {p : Parse α}, P α p → P α p.verbatim
  counted : ∀ {α} {p : Parse α}, P α p → P α p.counted

/-- Cursors that differ in nothing but the saved places. -/
def SameButSaved (c d : Cursor) : Prop := c.place = d.place ∧ c.verbatim = d.verbatim

namespace Hereditary

variable {P : ∀ α : Type, Parse α → Prop} {α β : Type}

lemma bind (h : Hereditary P) {p : Parse α} {f : α → Parse β} (hp : P α p)
    (hf : ∀ a, P β (f a)) : P β (p >>= f) :=
  h.bindOf hp fun a _ => hf a

/-- Two functions of the cursor that are the same on such cursors do not look at saved places. -/
lemma blind {f g : Cursor → Parse α}
    (hfg : ∀ c d, SameButSaved c d → f c = g d ∧ P α (f c)) :
    f = g ∧ ∀ c saved, f (c.withSaved saved) = f c := by
  have heq : f = g := funext fun c => (hfg c c ⟨rfl, rfl⟩).1
  refine ⟨heq, fun c saved => ?_⟩
  rw [(hfg (c.withSaved saved) c ⟨rfl, rfl⟩).1, heq]

lemma measured (h : Hereditary P) {p : Parse α} (hp : P α p) : P _ p.measured := by
  refine h.consult (fun before => ?_) fun _ _ => rfl
  exact h.bind hp fun a => h.consult (fun after => h.pure _) fun _ _ => rfl

lemma fail_errorAt (h : Hereditary P) (k : Complaint) : P α (Parse.fail k.errorAt) :=
  h.fail fun _ _ => k.errorAt_eq_of_place_eq rfl

/-- A hereditary property is a compositional relation of each parse that has it to itself. -/
theorem compositional (h : Hereditary P) :
    Compositional SameButSaved fun α p q => p = q ∧ P α p where
  ahead_eq hnear := congrArg Place.ahead hnear.1
  pure a := ⟨rfl, h.pure a⟩
  bind := by
    rintro α β p q f g ⟨rfl, hp⟩ hf
    have heq : f = g := funext fun a => (hf a).1
    exact ⟨by rw [heq], h.bind hp fun a => (hf a).2⟩
  consult := by
    intro α f g hfg
    obtain ⟨heq, hblind⟩ := blind hfg
    exact ⟨by rw [heq], h.consult (fun c => (hfg c c ⟨rfl, rfl⟩).2) hblind⟩
  measured := by
    rintro α p q ⟨rfl, hp⟩
    exact ⟨rfl, h.measured hp⟩
  advance := ⟨rfl, h.advance⟩
  advanceBytes n := ⟨rfl, h.advanceBytes n⟩
  skipBlank := ⟨rfl, h.skipBlank⟩
  fail k := ⟨rfl, h.fail_errorAt k⟩
  tentatively := by
    rintro α p q ⟨rfl, hp⟩
    exact ⟨rfl, h.tentatively hp⟩
  verbatim := by
    rintro α p q ⟨rfl, hp⟩
    exact ⟨rfl, h.verbatim hp⟩
  counted := by
    rintro α p q ⟨rfl, hp⟩
    exact ⟨rfl, h.counted hp⟩

/-! ## Parsers -/

/-- A parser that has the property is related to itself. -/
lemma alike {p : Parser α} (hp : P α p.attempt) :
    Parser.Alike (fun α p q => p = q ∧ P α p) p p :=
  ⟨rfl, rfl, rfl, hp⟩

lemma parse (h : Hereditary P) {p : Parser α} (hp : P α p.attempt) : P α p.parse :=
  (h.compositional.parse (alike hp)).2

lemma convert (h : Hereditary P) {p : Parser α} (hp : P α p.attempt) (f : α → β) :
    P β (p.convert f).attempt :=
  (h.compositional.convert (alike hp) f).attempt.2

lemma literal (h : Hereditary P) (text : String) : P String (Parser.literal text).attempt :=
  (h.compositional.literal text).attempt.2

lemma rest (h : Hereditary P) : P String Parser.rest.attempt :=
  h.compositional.rest.attempt.2

/-- A choice between two parsers. -/
lemma pickPair (h : Hereditary P) {p q : Parser α} (hp : P α p.attempt) (hq : P α q.attempt) :
    P α (Parser.pick [p, q]).attempt :=
  (h.compositional.pickPair (alike hp) (alike hq)).attempt.2

/-! ### Tokens -/

lemma whitespace (h : Hereditary P) : P String Token.whitespace.attempt :=
  h.compositional.whitespace.attempt.2

lemma skip (h : Hereditary P) : P (List String) Token.skip.attempt :=
  h.compositional.skip.attempt.2

lemma word (h : Hereditary P) : P String Token.word.attempt :=
  h.compositional.word.attempt.2

lemma escape (h : Hereditary P) : P Char Token.escape.attempt :=
  h.compositional.escape.attempt.2

lemma quotedSymbol (h : Hereditary P) (delimiter : Char) :
    P Char (Token.quotedSymbol delimiter).attempt :=
  (h.compositional.quotedSymbol delimiter).attempt.2

lemma quoted (h : Hereditary P) (delimiter : Char) : P String (Token.quoted delimiter).attempt :=
  (h.compositional.quoted delimiter).attempt.2

lemma quotedString (h : Hereditary P) : P String Token.quotedString.attempt :=
  h.compositional.quotedString.attempt.2

lemma string (h : Hereditary P) : P String Token.string.attempt :=
  h.compositional.string.attempt.2

/-! ### Parts of commands -/

lemma positional (h : Hereditary P) (name : String) {kind : Parser α} (hkind : P α kind.attempt) :
    P α (Command.positional name kind).attempt :=
  (h.compositional.positional name (h.compositional.parse (alike hkind))).attempt.2

lemma argument (h : Hereditary P) {a : Command.Argument} (hkind : P Value a.kind.attempt) :
    P Value a.parser.attempt :=
  (h.compositional.argument a.name a.required (h.compositional.parse (alike hkind))).attempt.2

lemma mentionOpener (h : Hereditary P) (mention : String) :
    P String (Command.mentionOpener mention).attempt :=
  (h.compositional.mentionOpener mention).attempt.2

lemma remainder (h : Hereditary P) : P Value Command.Signature.remainder.attempt :=
  h.compositional.remainder.attempt.2

/-! ## Grammars -/

/-- A grammar inherits the property if all rules have it. -/
theorem attempt_parserWith (h : Hereditary P) {rule : String → Parse Value}
    (hrule : ∀ name, P Value (rule name)) (g : Grammar) : P Value (g.parserWith rule).attempt := by
  have hfits : Compositional.Fits SameButSaved (fun α p q => p = q ∧ P α p) [] g :=
    ⟨fun _ _ _ => fun ⟨heq, hp⟩ => ⟨by rw [heq], h.speculate hp⟩, fun _ _ _ => And.left⟩
  exact (h.compositional.parserWith g ⟨hfits, fun name _ => ⟨rfl, hrule name⟩⟩).attempt.2

lemma runWithin (h : Hereditary P) (rules : Rules) (depth : Nat) (name : String) :
    P Value (rules.runWithin depth name) := by
  induction depth generalizing name with
  | zero => exact h.endless
  | succ depth ih =>
    unfold Rules.runWithin
    split
    · exact h.parse (h.attempt_parserWith ih _)
    · exact h.unknown name

/-- The depth that is chosen for a rule depends on the text alone. -/
lemma run (h : Hereditary P) (rules : Rules) (name : String) : P Value (rules.run name) := by
  rw [Rules.run_eq_bind]
  exact h.consult (fun c => h.runWithin rules _ name) fun _ _ => rfl

/-- Every grammar has the property, whatever its rules. -/
theorem attempt_grammar (h : Hereditary P) (rules : Rules) (g : Grammar) :
    P Value (g.parser rules).attempt :=
  h.attempt_parserWith (h.run rules) g

theorem parse_grammar (h : Hereditary P) (rules : Rules) (g : Grammar) :
    P Value (g.parser rules).parse :=
  h.parse (h.attempt_grammar rules g)

end Hereditary

end Parlance
