import Parlance.Command.Signature
import Parlance.Proofs.Compositional

/-!
# Relations that tokens, commands and grammars pass on

The parsers below are combinations of those in `Compositional`. The tokens are related to
themselves. A grammar is related to itself as well, even if its rules are read in two ways, as long
as what it refers to is related: the induction is on the grammar, and on the depth of references for
the rules that it names.

Some relations do not hold of all grammars. What a grammar contains, in its own parts and in the
rules that it comes to refer to, is `Grammar.Contains`.
-/

namespace Parlance

/-! ## What a grammar contains -/

namespace Grammar

/-- The grammars that a grammar is directly put together from. For a reference, this is the rule. -/
def parts (rules : Rules) : Grammar → List Grammar
  | .positional _ kind | .argument _ _ kind => [kind]
  | .few gs | .pick gs | .unordered gs => gs
  | .many g | .sequence g | .optional g | .only g | .verbatim g | .spanned g | .grouped g
  | .metered g | .map _ _ g => [g]
  | .lazy name => (List.lookup name rules).toList
  | .token _ | .literal _ | .range _ _ | .pattern _ | .capture _ | .quoted _ | .flag _ | .opener _
  | .raw _ _ => []

/-- `g.Contains rules node`: `node` is `g` or occurs in it, perhaps in a rule that is referred to. -/
inductive Contains (rules : Rules) : Grammar → Grammar → Prop
  | self (g : Grammar) : Contains rules g g
  | part {g part node : Grammar} :
    part ∈ g.parts rules → Contains rules part node → Contains rules g node

lemma Contains.trans {rules : Rules} {g node inner : Grammar} (h : g.Contains rules node)
    (hinner : node.Contains rules inner) : g.Contains rules inner := by
  induction h with
  | self => exact hinner
  | part hpart _ ih => exact .part hpart (ih hinner)

/-- A property that a grammar has and that passes to all parts holds of all that is contained. -/
lemma Contains.induct {rules : Rules} {P : Grammar → Prop}
    (hparts : ∀ g, P g → ∀ part ∈ g.parts rules, P part) {g node : Grammar}
    (h : g.Contains rules node) (hg : P g) : P node := by
  induction h with
  | self => exact hg
  | part hpart _ ih => exact ih (hparts _ hg _ hpart)

/-- The parts of a grammar without any rules are parts of it. -/
lemma mem_parts_of_nil {rules : Rules} {g part : Grammar} (h : part ∈ g.parts []) :
    part ∈ g.parts rules := by
  cases g with
  | lazy name => cases h
  | _ => exact h

/-- What a grammar contains in its own parts it contains. -/
lemma Contains.of_nil {rules : Rules} {g node : Grammar} (h : g.Contains [] node) :
    g.Contains rules node := by
  induction h with
  | self g => exact .self g
  | part hpart _ ih => exact .part (mem_parts_of_nil hpart) ih

lemma sizeOf_lt_of_mem_parts {g part : Grammar} (h : part ∈ g.parts []) :
    sizeOf part < sizeOf g := by
  cases g with
  | few gs | pick gs | unordered gs =>
    have hlt := List.sizeOf_lt_of_mem (show part ∈ gs from h)
    simp only [few.sizeOf_spec, pick.sizeOf_spec, unordered.sizeOf_spec]
    omega
  | argument name required kind | many kind | sequence kind | optional kind | only kind
  | verbatim kind | spanned kind | grouped kind | metered kind =>
    obtain rfl := List.mem_singleton.mp h
    simp
  | positional name kind | map tag finish kind =>
    obtain rfl := List.mem_singleton.mp h
    simp only [positional.sizeOf_spec, map.sizeOf_spec]
    omega
  | _ => cases h

/-- A grammar has a property if every grammar has it whose parts do. -/
@[elab_as_elim]
theorem ofParts {P : Grammar → Prop}
    (h : ∀ g : Grammar, (∀ part ∈ g.parts [], P part) → P g) (g : Grammar) : P g :=
  h g fun part _ => ofParts h part
termination_by sizeOf g
decreasing_by exact sizeOf_lt_of_mem_parts ‹_›

lemma parsersWith_eq_map (rule : String → Parse Value) (gs : List Grammar) :
    parsersWith rule gs = gs.map (parserWith rule) := by
  induction gs with
  | nil => rfl
  | cons g gs ih => rw [parsersWith, ih, List.map_cons]

lemma forall_mem_parsersWith {rule : String → Parse Value} {P : Parser Value → Prop}
    {gs : List Grammar} (h : ∀ g ∈ gs, P (g.parserWith rule)) : ∀ p ∈ parsersWith rule gs, P p := by
  rw [parsersWith_eq_map]
  exact List.forall_mem_map.mpr h

/-- Whether a grammar asks that nothing is left over. -/
def isOnly : Grammar → Bool
  | .only _ => true
  | _ => false

/-- Whether a grammar gives a value that tells the position or the symbol behind it. -/
def observesPosition : Grammar → Bool
  | .spanned _ | .raw _ .previous | .raw _ (.consume _) | .map _ .offset _ => true
  | _ => false

end Grammar

namespace Compositional

open Parlance.Parser (Alike)

variable {near : Cursor → Cursor → Prop} {R : ∀ α : Type, Parse α → Parse α → Prop}
  {α : Type} {p q p' q' : Parser α}

/-! ## Tokens -/

/-- A choice between two parsers. -/
lemma pickPair (h : Compositional near R) (hp : Alike R p p') (hq : Alike R q q') :
    Alike R (Parser.pick [p, q]) (Parser.pick [p', q']) :=
  h.pick (.cons hp (.cons hq .nil))

lemma whitespace (h : Compositional near R) : Alike R Token.whitespace Token.whitespace :=
  h.pickLiterals [" ", "\t", "\r", "\n"]

lemma skip (h : Compositional near R) : Alike R Token.skip Token.skip := h.many h.whitespace

lemma gap (h : Compositional near R) : Alike R Token.gap Token.gap := h.sequence h.whitespace

lemma alpha (h : Compositional near R) : Alike R Token.alpha Token.alpha :=
  h.pickPair (h.range _ _) (h.range _ _)

lemma alphanumeric (h : Compositional near R) : Alike R Token.alphanumeric Token.alphanumeric :=
  h.pickPair h.alpha (h.range _ _)

lemma nat (h : Compositional near R) : Alike R Token.nat Token.nat := by
  refine h.map "nat" (h.verbatimToken (h.sequence (h.range _ _))) fun digits => ?_
  split
  · exact h.pure _
  · exact h.reject _

lemma sign (h : Compositional near R) : Alike R Token.sign Token.sign := h.pickLiterals ["+", "-"]

lemma int (h : Compositional near R) : Alike R Token.int Token.int := by
  refine h.map "int" (h.verbatimToken (few ?_)) fun signed => ?_
  · refine h.bind (h.parse (h.optional h.sign)) fun sign => ?_
    exact h.bind (h.parse (h.sequence (h.range _ _))) fun digits => h.pure (sign, digits)
  · dsimp only
    split
    · split
      · exact h.pure _
      · exact h.reject _
    · exact h.reject _

lemma solid (h : Compositional near R) : Alike R Token.solid Token.solid := by
  refine ⟨rfl, rfl, h.bind h.advance fun found => ?_⟩
  cases found with
  | none => exact h.unexpected _
  | some c =>
    dsimp only
    split
    · exact h.unexpected _
    · exact h.pure c

lemma word (h : Compositional near R) : Alike R Token.word Token.word :=
  h.map "word" (h.verbatimToken (h.sequence h.solid)) fun _ => h.pure _

lemma identifierSymbol (h : Compositional near R) :
    Alike R Token.identifierSymbol Token.identifierSymbol :=
  h.pick (.cons h.alphanumeric (.cons (h.range _ _) (.cons (h.range _ _) .nil)))

lemma identifier (h : Compositional near R) : Alike R Token.identifier Token.identifier :=
  h.map "identifier" (h.verbatimToken (h.sequence h.identifierSymbol)) fun _ => h.pure _

lemma escape (h : Compositional near R) : Alike R Token.escape Token.escape := by
  refine h.map "escape" (h.verbatimToken (few ?_)) fun _ => h.pure _
  exact h.bind (h.parse (h.literal "\\")) fun _ => h.parse (h.pickLiterals Token.escapeLetters)

lemma quotedSymbol (h : Compositional near R) (delimiter : Char) :
    Alike R (Token.quotedSymbol delimiter) (Token.quotedSymbol delimiter) := by
  refine ⟨rfl, rfl, h.bind h.advance fun found => ?_⟩
  cases found with
  | none => exact h.fail (.ended _)
  | some c =>
    dsimp only
    split
    · exact h.unexpected _
    · exact h.pure c

lemma quoted (h : Compositional near R) (delimiter : Char) :
    Alike R (Token.quoted delimiter) (Token.quoted delimiter) := by
  have hsymbol := h.pickPair h.escape (h.quotedSymbol delimiter)
  refine h.map "quoted" (h.verbatimToken (few ?_)) fun _ => h.pure _
  refine h.bind (h.parse (h.range delimiter delimiter)) fun _ => ?_
  refine h.bind (h.parse (h.many hsymbol)) fun symbols => ?_
  exact h.bind (h.parse (h.range delimiter delimiter)) fun _ => h.pure symbols

lemma quotedString (h : Compositional near R) : Alike R Token.quotedString Token.quotedString :=
  h.pickPair (h.quoted _) (h.quoted _)

lemma string (h : Compositional near R) : Alike R Token.string Token.string :=
  h.pickPair h.quotedString h.word

lemma snowflake (h : Compositional near R) : Alike R Token.snowflake Token.snowflake := by
  refine h.map "snowflake" h.nat fun id => ?_
  split
  · exact h.pure id
  · exact h.reject _

lemma mention (h : Compositional near R) (kind : MentionKind) :
    Alike R (Token.mention kind) (Token.mention kind) := by
  refine h.map "mention" (h.verbatimToken (few ?_)) fun _ => h.pure _
  refine h.bind (h.parse (h.literal _)) fun _ => ?_
  refine h.bind (h.parse h.snowflake) fun id => ?_
  exact h.bind (h.parse (h.literal _)) fun _ => h.pure id

lemma token (h : Compositional near R) (name : TokenName) :
    Alike R name.parser name.parser := by
  cases name with
  | digit => exact h.convert (h.range _ _) _
  | lowercase => exact h.convert (h.range _ _) _
  | uppercase => exact h.convert (h.range _ _) _
  | alpha => exact h.convert h.alpha _
  | alphanumeric => exact h.convert h.alphanumeric _
  | whitespace => exact h.convert h.whitespace _
  | skip => exact h.convert h.skip _
  | gap => exact h.convert h.gap _
  | nat => exact h.convert h.nat _
  | int => exact h.convert h.int _
  | word => exact h.convert h.word _
  | escape => exact h.convert h.escape _
  | quotedString => exact h.convert h.quotedString _
  | string => exact h.convert h.string _
  | greedyString => exact h.convert h.rest _
  | identifier => exact h.convert h.identifier _
  | snowflake => exact h.convert h.snowflake _
  | userMention => exact h.convert (h.mention .user) _
  | channelMention => exact h.convert (h.mention .channel) _

/-! ## Parts of commands -/

lemma flag (h : Compositional near R) (name : String) :
    Alike R (Command.flag name) (Command.flag name) := by
  refine h.map "flag" (h.verbatimToken (few ?_)) fun value => h.pure value
  exact h.bind (h.parse (h.literal "-")) fun _ => h.parse (h.literal name)

lemma positional (h : Compositional near R) (name : String) {kind kind' : Parser α}
    (hkind : R α kind.parse kind'.parse) :
    Alike R (Command.positional name kind) (Command.positional name kind') := by
  refine h.map _ (few ?_) fun value => h.pure value
  refine h.bind (h.parse h.skip) fun _ => ?_
  refine h.bind (h.parse (h.flag name)) fun _ => ?_
  exact h.bind (h.parse h.gap) fun _ => hkind

lemma argument (h : Compositional near R) (name : String) (required : Bool)
    {kind kind' : Parser Value} (hkind : R Value kind.parse kind'.parse) :
    Alike R (Command.Argument.parser ⟨name, required, kind⟩)
      (Command.Argument.parser ⟨name, required, kind'⟩) := by
  have hpositional := h.positional name hkind
  cases required with
  | true => exact h.map _ hpositional fun value => h.pure value
  | false => exact h.map _ (h.optional hpositional) fun value => h.pure _

lemma mentionOpener (h : Compositional near R) (mention : String) :
    Alike R (Command.mentionOpener mention) (Command.mentionOpener mention) := by
  refine h.map "mention" (few ?_) fun _ => h.pure _
  refine h.bind (h.parse (h.literal mention)) fun mention => ?_
  exact h.bind (h.parse (h.optional (h.literal " "))) fun space => h.pure (mention, space)

lemma opener (h : Compositional near R) (mention : String) :
    Alike R (Command.opener mention) (Command.opener mention) :=
  h.pick (.cons (h.literal "/") (.cons (h.literal "$") (.cons (h.mentionOpener mention) .nil)))

lemma remainder (h : Compositional near R) :
    Alike R Command.Signature.remainder Command.Signature.remainder := by
  refine h.map "remainder" (h.optional (few ?_)) fun _ => h.pure _
  exact h.bind (h.parse h.skip) fun _ => h.parse h.rest

/-- A signature whose kinds are related to themselves. -/
lemma signature (h : Compositional near R) {s : Command.Signature}
    (hkinds : ∀ a ∈ s.arguments, R Value a.kind.parse a.kind.parse) :
    Alike R s.parser s.parser := by
  have hentries : ∀ p ∈ s.entries, Alike R p p := by
    intro p hp
    rcases List.mem_append.mp hp with hp | hp
    · obtain ⟨a, ha, rfl⟩ := List.mem_map.mp hp
      exact h.argument a.name a.required (hkinds a ha)
    · rw [List.mem_singleton.mp hp]
      exact h.remainder
  refine h.map "command" (few ?_) fun _ => h.pure _
  refine h.bind (h.parse (h.opener s.mention)) fun _ => ?_
  refine h.bind (h.parse (h.pickLiterals s.aliases)) fun _ => ?_
  exact h.bind (h.parse (h.unordered (List.forall₂_same.mpr hentries))) fun _ => h.pure _

/-! ## Grammars -/

/-- An action that looks at the position needs near cursors to be at the same place. -/
lemma action (h : Compositional near R) (tag : String) (action : Action)
    (hplace : (Grammar.raw tag action).observesPosition = true → SeesPlace near) :
    R Value action.run action.run := by
  cases action with
  | any =>
    refine h.bind h.advance fun found => ?_
    cases found with
    | some c => exact h.pure _
    | none => exact h.fail (.ended _)
  | previous =>
    refine h.consult fun c d hnear => ?_
    have hbehind : c.lookbehind 1 = d.lookbehind 1 :=
      congrArg (fun place : Place => place.behind[0]?) (hplace rfl hnear)
    rw [hbehind]
    exact h.pure _
  | consume bytes =>
    refine h.bind (h.advanceBytes bytes) fun _ => h.consult fun c d hnear => ?_
    have hoffset : c.offset = d.offset :=
      congrArg (fun place : Place => place.position.offset) (hplace rfl hnear)
    rw [hoffset]
    exact h.pure _
  | reject message => exact h.reject message

lemma finish (h : Compositional near R) (tag : String) (finish : Finish) (g : Grammar)
    (hplace : (Grammar.map tag finish g).observesPosition = true → SeesPlace near) (v : Value) :
    R Value (finish.run v) (finish.run v) := by
  cases finish with
  | identity => exact h.pure v
  | offset =>
    refine h.consult fun c d hnear => ?_
    have hoffset : c.offset = d.offset :=
      congrArg (fun place : Place => place.position.offset) (hplace rfl hnear)
    rw [hoffset]
    exact h.pure _
  | thenAdvance => exact h.bind h.advance fun next => h.pure _
  | rejectAhead => exact h.fail .leftOver
  | rejectSymbol expected => exact h.unexpected expected
  | reject message => exact h.reject message

/-- What a grammar needs of a relation beyond being compositional: to be passed on to speculative
runs if it contains `only`, and to compare runs from one place if it looks at the position. -/
structure Fits (near : Cursor → Cursor → Prop) (R : ∀ α : Type, Parse α → Parse α → Prop)
    (rules : Rules) (g : Grammar) : Prop where
  only : ∀ node, g.Contains rules node → node.isOnly = true → TakesBack R
  position : ∀ node, g.Contains rules node → node.observesPosition = true → SeesPlace near

/-- A grammar that fits and whose rules, which may be read in two ways, are related. -/
structure Admits (near : Cursor → Cursor → Prop) (R : ∀ α : Type, Parse α → Parse α → Prop)
    (rules : Rules) (rule rule' : String → Parse Value) (g : Grammar) : Prop
    extends Fits near R rules g where
  lazy : ∀ name, g.Contains rules (.lazy name) → R Value (rule name) (rule' name)

variable {rules : Rules} {rule rule' : String → Parse Value} {g node part : Grammar}

lemma Fits.ofContains (hg : Fits near R rules g) (hnode : g.Contains rules node) :
    Fits near R rules node where
  only inner hinner := hg.only inner (hnode.trans hinner)
  position inner hinner := hg.position inner (hnode.trans hinner)

lemma Admits.ofPart (hg : Admits near R rules rule rule' g) (hpart : part ∈ g.parts rules) :
    Admits near R rules rule rule' part where
  toFits := hg.toFits.ofContains (.part hpart (.self part))
  lazy name hname := hg.lazy name (.part hpart hname)

/-- The parsers of several grammars are related one by one. -/
lemma parsersWith {gs : List Grammar}
    (hparts : ∀ part ∈ gs, Alike R (part.parserWith rule) (part.parserWith rule')) :
    List.Forall₂ (Alike R) (Grammar.parsersWith rule gs) (Grammar.parsersWith rule' gs) := by
  rw [Grammar.parsersWith_eq_map, Grammar.parsersWith_eq_map, List.forall₂_map_left_iff,
    List.forall₂_map_right_iff]
  exact List.forall₂_same.mpr hparts

/-- A grammar is related to itself if its parts are. -/
theorem ofParts (h : Compositional near R) (g : Grammar)
    (honly : g.isOnly = true → TakesBack R) (hplace : g.observesPosition = true → SeesPlace near)
    (hlazy : ∀ name, g = .lazy name → R Value (rule name) (rule' name))
    (hparts : ∀ part ∈ g.parts [], Alike R (part.parserWith rule) (part.parserWith rule')) :
    Alike R (g.parserWith rule) (g.parserWith rule') := by
  cases g with
  | token name => exact h.token name
  | literal text => exact h.convert (h.literal text) _
  | range low high => exact h.convert (h.range low high) _
  | pattern p => exact h.convert (h.pattern p) _
  | capture p => exact h.convert (h.capture p) _
  | quoted delimiter => exact h.convert (h.quoted delimiter) _
  | flag name => exact h.convert (h.flag name) _
  | opener mention => exact h.convert (h.opener mention) _
  | positional name kind => exact h.positional name (h.parse (hparts kind List.mem_cons_self))
  | argument name required kind =>
    exact h.argument name required (h.parse (hparts kind List.mem_cons_self))
  | few gs => exact h.convert (few (h.parseAll (h.parses (parsersWith hparts)))) _
  | pick gs => exact h.pick (parsersWith hparts)
  | unordered gs => exact h.convert (h.unordered (parsersWith hparts)) _
  | many g => exact h.convert (h.many (hparts g List.mem_cons_self)) _
  | sequence g => exact h.convert (h.sequence (hparts g List.mem_cons_self)) _
  | optional g => exact h.convert (h.optional (hparts g List.mem_cons_self)) _
  | only g => exact h.only (honly rfl) (hparts g List.mem_cons_self)
  | verbatim g => exact h.verbatimToken (hparts g List.mem_cons_self)
  | spanned g => exact h.convert (h.spanned (hplace rfl) (hparts g List.mem_cons_self)) _
  | lazy name => exact ⟨rfl, rfl, hlazy name rfl⟩
  | grouped g => exact hparts g List.mem_cons_self
  | metered g => exact h.metered (hparts g List.mem_cons_self)
  | raw tag action => exact ⟨rfl, rfl, h.action tag action hplace⟩
  | map tag finish g => exact h.map tag (hparts g List.mem_cons_self) (h.finish tag finish g hplace)

/-- A grammar is related to itself if the rules that it refers to are. -/
theorem parserWith (h : Compositional near R) (g : Grammar)
    (hg : Admits near R rules rule rule' g) :
    Alike R (g.parserWith rule) (g.parserWith rule') := by
  induction g using Grammar.ofParts with
  | _ g ih =>
    refine h.ofParts g (hg.only g (.self g)) (hg.position g (.self g)) ?_ fun part hpart =>
      ih part hpart (hg.ofPart (Grammar.mem_parts_of_nil hpart))
    rintro name rfl
    exact hg.lazy name (.self _)

/-! ## Rules -/

section Rules

variable (h : Compositional near R)
  (hfault : ∀ fault (p : Parse Value), R Value (Parse.fault fault) p ∧ R Value p (Parse.fault fault))

include h hfault

/-- If a parse without a reply is related to all others, rules are related at all depths. -/
lemma runWithin (depth depth' : ℕ) {name : String} (hname : Fits near R rules (.lazy name)) :
    R Value (rules.runWithin depth name) (rules.runWithin depth' name) := by
  induction depth generalizing depth' name with
  | zero => exact (hfault _ _).1
  | succ depth ih =>
    cases depth' with
    | zero => exact (hfault _ _).2
    | succ depth' =>
      unfold Rules.runWithin
      cases hbody : List.lookup name rules with
      | none => exact (hfault _ _).1
      | some body =>
        have hpart : body ∈ (Grammar.lazy name).parts rules := by
          rw [Grammar.parts, hbody]
          exact List.mem_singleton_self body
        -- what the rule contains is contained in the reference to it
        have hadmits : Admits near R rules (rules.runWithin depth) (rules.runWithin depth') body :=
          ⟨hname.ofContains (.part hpart (.self body)),
            fun _ hinner => ih depth' (hname.ofContains (.part hpart hinner))⟩
        exact h.parse (h.parserWith body hadmits)

/-- The depth that is chosen for a rule may differ between near cursors. -/
lemma run {name : String} (hname : Fits near R rules (.lazy name)) :
    R Value (rules.run name) (rules.run name) := by
  rw [Rules.run_eq_bind]
  exact h.consult fun c d _ => h.runWithin hfault _ _ hname

/-- Every grammar that fits is related to itself. -/
theorem grammar (hg : Fits near R rules g) : Alike R (g.parser rules) (g.parser rules) :=
  h.parserWith g ⟨hg, fun _ hname => h.run hfault (hg.ofContains hname)⟩

end Rules

end Compositional

end Parlance
