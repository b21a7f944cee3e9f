import Parlance.Proofs.Command.Signature
import Parlance.Proofs.Unordered

/-!
# Blanks in front of a token

A parser of a single token skips the blanks in front of it, so it makes no difference whether they
have been skipped before. Parsers that are put together from others leave the skipping to the first
of their parts that is run: `Parse.IgnoresBlanks` passes from it to the whole, whatever the other
parts are and whatever is done with the values. `Grammar.IsToken` collects the grammars that begin
with a token in this way.
-/

namespace Parlance

/-! ## Parses -/

namespace Parse

variable {α β : Type}

/-- Skipping blanks first makes no difference to the outcome of `p`. -/
structure IgnoresBlanks (p : Parse α) : Prop where
  accepts : ∀ {c a c'}, p.Accepts c.skipBlank a c' ↔ p.Accepts c a c'
  fails : ∀ {c}, p.Fails c.skipBlank ↔ p.Fails c

namespace IgnoresBlanks

lemma of_eq {p : Parse α} (h : ∀ c : Cursor, p c.skipBlank = p c) : p.IgnoresBlanks where
  accepts {c a c'} := by
    unfold Accepts
    rw [h]
  fails {c} := by
    unfold Fails Rejects
    rw [h]

lemma reject (message : String) : (Parse.reject message : Parse α).IgnoresBlanks where
  accepts := iff_of_false not_accepts_fail not_accepts_fail
  fails := iff_of_true (fails_fail _ _) (fails_fail _ _)

/-- What comes second is run from where the first parse ends. -/
lemma bind {p : Parse α} (hp : p.IgnoresBlanks) (f : α → Parse β) : (p >>= f).IgnoresBlanks where
  accepts {c b c'} := by
    rw [accepts_bind_iff, accepts_bind_iff]
    simp only [hp.accepts]
  fails {c} := by
    rw [fails_bind_iff, fails_bind_iff]
    simp only [hp.accepts, hp.fails]

lemma speculate {p : Parse α} (hp : p.IgnoresBlanks) (horderly : p.Orderly) :
    p.speculate.IgnoresBlanks where
  accepts {_ _ _} := by
    rw [horderly.accepts_speculate_iff, horderly.accepts_speculate_iff, hp.accepts]
  fails {_} := by rw [horderly.fails_speculate_iff, horderly.fails_speculate_iff, hp.fails]

lemma counted {p : Parse α} (hp : p.IgnoresBlanks) : p.counted.IgnoresBlanks where
  accepts {_ _ _} := by rw [accepts_counted_iff, accepts_counted_iff, hp.accepts]
  fails {_} := by rw [fails_counted_iff, fails_counted_iff, hp.fails]

/-- What is run behind blanks that are read as text does not see how many of them there were. -/
lemma skip_bind (p : Parse α) : (Token.skip.parse >>= fun _ => p).IgnoresBlanks := by
  have hskip : ∀ {c : Cursor}, c.isVerbatim = false →
      ∃ values, Token.skip.parse.Accepts c values c.skipBlank := by
    intro c hverbatim
    refine ⟨_, Token.accepts_skip_iff.mpr ⟨rfl, ?_⟩⟩
    rw [Cursor.skipBlank_eq, hverbatim]
    rfl
  -- outside a verbatim token both runs read on from where the blanks end
  have hsame : ∀ c : Cursor, c.isVerbatim = true ∨ ∃ values values',
      Token.skip.parse.Accepts c values c.skipBlank
        ∧ Token.skip.parse.Accepts c.skipBlank values' c.skipBlank := by
    intro c
    cases hverbatim : c.isVerbatim with
    | true => exact Or.inl rfl
    | false =>
      obtain ⟨t, -, hpast⟩ := c.exists_skipBlank_eq
      have hverbatim' : c.skipBlank.isVerbatim = false := by
        rw [hpast, Cursor.isVerbatim_past, hverbatim]
      obtain ⟨values, h⟩ := hskip hverbatim
      obtain ⟨values', h'⟩ := hskip hverbatim'
      rw [Cursor.skipBlank_skipBlank] at h'
      exact Or.inr ⟨values, values', h, h'⟩
  constructor
  · intro c a c'
    rcases hsame c with hverbatim | ⟨_, _, h, h'⟩
    · rw [Cursor.skipBlank_of_isVerbatim hverbatim]
    · rw [h.bind_accepts_iff, h'.bind_accepts_iff]
  · intro c
    rcases hsame c with hverbatim | ⟨_, _, h, h'⟩
    · rw [Cursor.skipBlank_of_isVerbatim hverbatim]
    · rw [h.bind_fails_iff, h'.bind_fails_iff]

end IgnoresBlanks

end Parse

/-! ## Parsers -/

namespace Parser

open Parlance.Parse (IgnoresBlanks)

variable {α β : Type} {p : Parser α}

/-- A parser that skips blanks itself ignores that they have been skipped. -/
lemma ignoresBlanks_of_skipsBlank (h : p.skipsBlank = true) : p.parse.IgnoresBlanks := by
  refine .of_eq fun c => ?_
  have happroach : ∀ d : Cursor, p.approach d = d.skipBlank := fun d => if_pos h
  show p.attempt (p.approach c.skipBlank) = p.attempt (p.approach c)
  rw [happroach, happroach, Cursor.skipBlank_skipBlank]

lemma ignoresBlanks_literal {text : String} (h : startsSolid text.toList = true) :
    (literal text).parse.IgnoresBlanks :=
  ignoresBlanks_of_skipsBlank h

lemma ignoresBlanks_convert (hp : p.parse.IgnoresBlanks) (f : α → β) :
    (p.convert f).parse.IgnoresBlanks where
  accepts {_ _ _} := by
    rw [accepts_convert_iff, accepts_convert_iff]
    simp only [hp.accepts]
  fails {_} := by rw [fails_convert_iff, fails_convert_iff, hp.fails]

/-- Whatever is done with the value. -/
lemma ignoresBlanks_map (tag : String) (hp : p.parse.IgnoresBlanks) (f : α → Parse β) :
    (map tag p f).parse.IgnoresBlanks :=
  hp.bind f

/-- Whatever comes behind the first part. -/
lemma ignoresBlanks_few (hp : p.parse.IgnoresBlanks) (f : α → Parse β) :
    (few (p.parse >>= f)).parse.IgnoresBlanks :=
  hp.bind f

lemma ignoresBlanks_sequence (hp : p.parse.IgnoresBlanks) : (sequence p).parse.IgnoresBlanks :=
  hp.bind _

lemma ignoresBlanks_only (hp : p.parse.IgnoresBlanks) (horderly : p.parse.Orderly) :
    (only p).parse.IgnoresBlanks :=
  (hp.speculate horderly).bind _

lemma ignoresBlanks_metered (hp : p.parse.IgnoresBlanks) : (metered p).parse.IgnoresBlanks :=
  hp.counted

lemma ignoresBlanks_positional (name : String) (kind : Parser α) :
    (Command.positional name kind).parse.IgnoresBlanks := by
  rw [Command.parse_positional]
  exact .skip_bind _

section Branches

variable {branches : List (Parser α)} (horderly : ∀ p ∈ branches, p.parse.Orderly)
  (hignores : ∀ p ∈ branches, p.parse.IgnoresBlanks)

include horderly hignores

/-- The branches in front of the one that is taken fail in both cases. -/
lemma ignoresBlanks_pick : (pick branches).parse.IgnoresBlanks where
  accepts {c a c'} := by
    rw [accepts_pick_iff horderly, accepts_pick_iff horderly]
    refine exists_congr fun before => exists_congr fun p => exists_congr fun after =>
      and_congr_right fun heq => ?_
    have hbefore : ∀ q ∈ before, q ∈ branches := fun q hq => heq ▸ List.mem_append_left _ hq
    have hp : p ∈ branches := heq ▸ List.mem_append_right _ List.mem_cons_self
    rw [(hignores p hp).accepts]
    exact and_congr_left fun _ => forall₂_congr fun q hq => (hignores q (hbefore q hq)).fails
  fails {c} := by
    rw [fails_pick_iff horderly, fails_pick_iff horderly]
    exact forall₂_congr fun q hq => (hignores q hq).fails

omit horderly in
lemma ignoresBlanks_parseBranch (i : ℕ) : (parseBranch branches i).IgnoresBlanks := by
  cases hi : branches[i]? with
  | some p =>
    rw [parseBranch_of_getElem? hi]
    exact hignores p (List.mem_of_getElem? hi)
  | none =>
    rw [parseBranch, hi]
    exact .reject _

/-- Only the first pass sees the blanks, so there has to be a first pass. -/
lemma ignoresBlanks_unordered (hne : branches ≠ []) :
    (unordered branches).parse.IgnoresBlanks := by
  have hbranch := ignoresBlanks_parseBranch hignores
  -- the first choice ends at the same place in both runs, and the others start from there
  have hforth : ∀ {c choices c'}, Schedule branches ∅ c.skipBlank choices c' →
      ∃ d', Schedule branches ∅ c choices d' ∧ (choices ≠ [] → d' = c') :=
    fun h => h.exists_of_alike (fun i => (hbranch i).fails.mp) fun i _ _ => (hbranch i).accepts.mp
  have hback : ∀ {c choices c'}, Schedule branches ∅ c choices c' →
      ∃ d', Schedule branches ∅ c.skipBlank choices d' ∧ (choices ≠ [] → d' = c') :=
    fun h => h.exists_of_alike (fun i => (hbranch i).fails.mpr) fun i _ _ => (hbranch i).accepts.mpr
  have hchoices : ∀ {choices : List (ℕ × α)}, choices.length = branches.length → choices ≠ [] := by
    intro choices hlength hnil
    rw [hnil] at hlength
    exact hne (List.eq_nil_of_length_eq_zero hlength.symm)
  constructor
  · intro c values c'
    rw [accepts_unordered_iff horderly, accepts_unordered_iff horderly]
    refine exists_congr fun choices => and_congr_left fun ⟨hlength, _⟩ => ⟨fun h => ?_, fun h => ?_⟩
    · obtain ⟨d', h', heq⟩ := hforth h
      exact heq (hchoices hlength) ▸ h'
    · obtain ⟨d', h', heq⟩ := hback h
      exact heq (hchoices hlength) ▸ h'
  · intro c
    rw [fails_unordered_iff horderly, fails_unordered_iff horderly]
    constructor
    · intro ⟨choices, c', h, hlt⟩
      obtain ⟨d', h', -⟩ := hforth h
      exact ⟨choices, d', h', hlt⟩
    · intro ⟨choices, c', h, hlt⟩
      obtain ⟨d', h', -⟩ := hback h
      exact ⟨choices, d', h', hlt⟩

end Branches

lemma ignoresBlanks_pickPair {q : Parser α} (hp : p.parse.IgnoresBlanks)
    (hq : q.parse.IgnoresBlanks) (hp' : p.parse.Orderly) (hq' : q.parse.Orderly) :
    (pick [p, q]).parse.IgnoresBlanks := by
  refine ignoresBlanks_pick ?_ ?_
  · simpa using ⟨hp', hq'⟩
  · simpa using ⟨hp, hq⟩

end Parser

/-! ## Tokens -/

namespace Token

open Parlance.Parser

lemma ignoresBlanks_alpha : alpha.parse.IgnoresBlanks :=
  ignoresBlanks_pickPair (ignoresBlanks_of_skipsBlank rfl) (ignoresBlanks_of_skipsBlank rfl)
    (Parse.compositional_orderly.range _ _).orderly (Parse.compositional_orderly.range _ _).orderly

lemma ignoresBlanks_quoted (delimiter : Char) : (quoted delimiter).parse.IgnoresBlanks :=
  ignoresBlanks_map _ (ignoresBlanks_of_skipsBlank rfl) _

lemma ignoresBlanks_quotedString : quotedString.parse.IgnoresBlanks :=
  ignoresBlanks_pickPair (ignoresBlanks_quoted _) (ignoresBlanks_quoted _)
    (Parse.compositional_orderly.quoted _).orderly (Parse.compositional_orderly.quoted _).orderly

end Token

/-- Whether blanks in front may be part of what the token reads. -/
def TokenName.mayStartBlank : TokenName → Bool
  | .whitespace | .skip | .gap | .greedyString => true
  | _ => false

open Parlance.Parser in
lemma TokenName.ignoresBlanks {name : TokenName} (h : name.mayStartBlank = false) :
    name.parser.parse.IgnoresBlanks := by
  cases name with
  | whitespace | skip | gap | greedyString => cases h
  | digit | lowercase | uppercase => exact ignoresBlanks_of_skipsBlank rfl
  | alpha => exact ignoresBlanks_convert Token.ignoresBlanks_alpha _
  | alphanumeric =>
    exact ignoresBlanks_convert (ignoresBlanks_pickPair Token.ignoresBlanks_alpha
      (ignoresBlanks_of_skipsBlank rfl) Parse.compositional_orderly.alpha.orderly
      (Parse.compositional_orderly.range _ _).orderly) _
  | nat | int | word | escape | identifier | userMention | channelMention =>
    exact ignoresBlanks_convert (ignoresBlanks_map _ (ignoresBlanks_of_skipsBlank rfl) _) _
  | snowflake =>
    have hnat : Token.nat.parse.IgnoresBlanks :=
      ignoresBlanks_map _ (ignoresBlanks_of_skipsBlank rfl) _
    exact ignoresBlanks_convert (ignoresBlanks_map _ hnat _) _
  | quotedString => exact ignoresBlanks_convert Token.ignoresBlanks_quotedString _
  | string =>
    have hword : Token.word.parse.IgnoresBlanks :=
      ignoresBlanks_map _ (ignoresBlanks_of_skipsBlank rfl) _
    exact ignoresBlanks_convert (ignoresBlanks_pickPair Token.ignoresBlanks_quotedString hword
      Parse.compositional_orderly.quotedString.orderly Parse.compositional_orderly.word.orderly) _

open Parlance.Parser Parlance.Command in
lemma Command.ignoresBlanks_opener {mention : String} (h : startsSolid mention.toList = true) :
    (Command.opener mention).parse.IgnoresBlanks := by
  have hmention : (mentionOpener mention).parse.IgnoresBlanks :=
    ignoresBlanks_map _ (ignoresBlanks_few (ignoresBlanks_literal h) _) _
  refine ignoresBlanks_pick (orderly_openers mention) fun p hp => ?_
  simp only [List.mem_cons, List.not_mem_nil, or_false] at hp
  rcases hp with rfl | rfl | rfl
  · exact ignoresBlanks_literal rfl
  · exact ignoresBlanks_literal rfl
  · exact hmention

/-! ## Grammars -/

namespace Grammar

open Parlance.Parser

/-- A grammar that begins with a token: what is run first skips the blanks in front of it. -/
inductive IsToken (rules : Rules) : Grammar → Prop
  | token {name : TokenName} : name.mayStartBlank = false → IsToken rules (.token name)
  | literal {text : String} : startsSolid text.toList = true → IsToken rules (.literal text)
  | range (low high : Char) : IsToken rules (.range low high)
  | pattern (p : Pattern) : IsToken rules (.pattern p)
  | capture (p : Pattern) : IsToken rules (.capture p)
  | quoted (delimiter : Char) : IsToken rules (.quoted delimiter)
  | flag (name : String) : IsToken rules (.flag name)
  | opener {mention : String} :
    startsSolid mention.toList = true → IsToken rules (.opener mention)
  | raw (tag : String) (action : Action) : IsToken rules (.raw tag action)
  | verbatim (g : Grammar) : IsToken rules (.verbatim g)
  | positional (name : String) (kind : Grammar) : IsToken rules (.positional name kind)
  | argument (name : String) (kind : Grammar) : IsToken rules (.argument name true kind)
  | map (tag : String) (finish : Finish) {g : Grammar} :
    IsToken rules g → IsToken rules (.map tag finish g)
  /-- The parts behind the first one may be anything. -/
  | few {g : Grammar} (gs : List Grammar) : IsToken rules g → IsToken rules (.few (g :: gs))
  | pick {gs : List Grammar} : (∀ g ∈ gs, IsToken rules g) → IsToken rules (.pick gs)
  | unordered {gs : List Grammar} :
    gs ≠ [] → (∀ g ∈ gs, IsToken rules g) → IsToken rules (.unordered gs)
  | sequence {g : Grammar} : IsToken rules g → IsToken rules (.sequence g)
  | only {g : Grammar} : IsToken rules g → IsToken rules (.only g)
  | grouped {g : Grammar} : IsToken rules g → IsToken rules (.grouped g)
  | metered {g : Grammar} : IsToken rules g → IsToken rules (.metered g)
  | lazy {name : String} {g : Grammar} :
    List.lookup name rules = some g → IsToken rules g → IsToken rules (.lazy name)

variable {rules : Rules} {g : Grammar}

/-- A grammar that begins with a token ignores blanks if the rules do that begin with one. -/
theorem IsToken.ignoresBlanks (hg : IsToken rules g) {rule : String → Parse Value}
    (horderly : ∀ name, (rule name).Orderly)
    (hrule : ∀ name, IsToken rules (.lazy name) → (rule name).IgnoresBlanks) :
    (g.parserWith rule).parse.IgnoresBlanks := by
  have hbranches : ∀ gs : List Grammar, ∀ p ∈ parsersWith rule gs, p.parse.Orderly := fun gs =>
    forall_mem_parsersWith fun g _ => orderly_parserWith horderly g
  -- the induction follows the part that is run first, down to a parser that skips blanks itself
  induction hg with
  | token h => exact TokenName.ignoresBlanks h
  | literal h => exact ignoresBlanks_convert (ignoresBlanks_literal h) _
  | range | pattern | capture | raw | verbatim => exact ignoresBlanks_of_skipsBlank rfl
  | quoted delimiter => exact ignoresBlanks_convert (Token.ignoresBlanks_quoted delimiter) _
  | flag name =>
    exact ignoresBlanks_convert (ignoresBlanks_map _ (ignoresBlanks_of_skipsBlank rfl) _) _
  | opener h => exact ignoresBlanks_convert (Command.ignoresBlanks_opener h) _
  | positional name kind => exact ignoresBlanks_positional name _
  | argument name kind => exact ignoresBlanks_map _ (ignoresBlanks_positional name _) _
  | map tag finish _ ih => exact ignoresBlanks_map tag ih _
  | few gs _ ih => exact ignoresBlanks_convert (ignoresBlanks_few ih _) _
  | pick _ ih => exact ignoresBlanks_pick (hbranches _) (forall_mem_parsersWith ih)
  | @unordered gs hne _ ih =>
    have hne' : parsersWith rule gs ≠ [] := by
      rw [parsersWith_eq_map]
      exact mt List.map_eq_nil_iff.mp hne
    exact ignoresBlanks_convert
      (ignoresBlanks_unordered (hbranches gs) (forall_mem_parsersWith ih) hne') _
  | sequence _ ih => exact ignoresBlanks_convert (ignoresBlanks_sequence ih) _
  | @only g _ ih => exact ignoresBlanks_only ih (orderly_parserWith horderly g)
  | grouped _ ih => exact ih
  | metered _ ih => exact ignoresBlanks_metered ih
  | lazy hlookup hg => exact hrule _ (.lazy hlookup hg)

lemma ignoresBlanks_runWithin (depth : ℕ) {name : String} (hname : IsToken rules (.lazy name)) :
    (rules.runWithin depth name).IgnoresBlanks := by
  -- references inside the rule are read one level deeper
  induction depth generalizing name with
  | zero => exact .of_eq fun _ => rfl
  | succ depth ih =>
    cases hname with
    | lazy hlookup hg =>
      rw [Rules.runWithin, hlookup]
      exact hg.ignoresBlanks (Parse.hereditary_orderly.runWithin rules depth) fun _ h => ih h

/-- Skipping blanks does not change the text, and so not the depth of references either. -/
lemma ignoresBlanks_run {name : String} (hname : IsToken rules (.lazy name)) :
    (rules.run name).IgnoresBlanks := by
  have hdepth : ∀ c : Cursor, rules.depthFor c.skipBlank = rules.depthFor c := by
    intro c
    rw [Rules.depthFor, Rules.depthFor, Cursor.skipBlank]
    split
    · rfl
    · rw [Place.skipBlank, Place.source_advanceWhile]
  constructor
  · intro c v c'
    show (rules.runWithin (rules.depthFor c.skipBlank) name).Accepts c.skipBlank v c' ↔ _
    rw [hdepth]
    exact (ignoresBlanks_runWithin _ hname).accepts
  · intro c
    show (rules.runWithin (rules.depthFor c.skipBlank) name).Fails c.skipBlank ↔ _
    rw [hdepth]
    exact (ignoresBlanks_runWithin _ hname).fails

/-- A grammar that begins with a token reads the same and ends at the same cursor whether blanks
have been skipped before it or not, and it fails in both cases or in none. The same goes for any
function that its value is passed on to. -/
theorem leading_blanks_immaterial (hg : IsToken rules g) (c : Cursor) :
    let p := g.parser rules
    (∀ v c', p.parse.Accepts c.skipBlank v c' ↔ p.parse.Accepts c v c') ∧
    (p.parse.Fails c.skipBlank ↔ p.parse.Fails c) ∧
    ∀ (α : Type) (tag : String) (f : Value → Parse α) (a : α) (c' : Cursor),
      (Parser.map tag p f).parse.Accepts c.skipBlank a c'
        ↔ (Parser.map tag p f).parse.Accepts c a c' := by
  intro p
  have hp : p.parse.IgnoresBlanks :=
    hg.ignoresBlanks (Parse.hereditary_orderly.run rules) fun _ => ignoresBlanks_run
  exact ⟨fun _ _ => hp.accepts, hp.fails, fun _ tag f _ _ => (ignoresBlanks_map tag hp f).accepts⟩

/-- An argument and a rule in any order. -/
theorem leading_blanks_immaterial_entry :
    let rules : Rules := [("entry",
      .few [.pick [.literal "é", .sequence (.range '0' '9')], .optional (.literal " ")])]
    let g := Grammar.unordered [.positional "n" (.token .nat), .lazy "entry"]
    let c := (Cursor.ofString "x \t é  -n 5").past ['x']
    let v := Value.list [.nat 5, .list [.str "é", .str " "]]
    IsToken rules g ∧ c.skipBlank = c.past " \t ".toList ∧
      (g.parser rules).parse.Accepts c v (c.past " \t é  -n 5".toList) ∧
      (g.parser rules).parse.Accepts c.skipBlank v (c.past " \t é  -n 5".toList) := by
  intro rules g c v
  have hentry : IsToken rules (.lazy "entry") := by
    refine .lazy rfl (.few _ (.pick ?_))
    simpa using ⟨.literal rfl, .sequence (.range '0' '9')⟩
  have hg : IsToken rules g := by
    refine .unordered (List.cons_ne_nil _ _) ?_
    simpa using ⟨.positional "n" (.token .nat), hentry⟩
  have haccepts : (g.parser rules).parse.Accepts c v (c.past " \t é  -n 5".toList) :=
    ⟨0, by decide +kernel⟩
  exact ⟨hg, by decide, haccepts, ((leading_blanks_immaterial hg c).1 _ _).mpr haccepts⟩

end Grammar

end Parlance
