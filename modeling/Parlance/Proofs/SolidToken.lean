import Parlance.Proofs.Frame
import Parlance.Proofs.Repetition
import Parlance.Proofs.Terminal
import Parlance.Proofs.Unordered

/-!
# What a verbatim token reads

Inside a verbatim token no blanks are skipped, so blanks are read only by parsers that ask for them.
If the leaves of a grammar do not, then none is read: `Parse.StaysSolid` says so of a parse that
starts inside a verbatim token, at any depth, and every way to combine parses passes it on. What a
verbatim token reads is therefore the blanks in front of it and a text without blanks
(`Grammar.verbatim_reads_solid`).
-/

namespace Parlance

/-- A text without blanks. -/
def Solid (text : List Char) : Prop := ∀ x ∈ text, isBlank x = false

instance (text : List Char) : Decidable (Solid text) :=
  List.decidableBAll (fun x => isBlank x = false) text

lemma Solid.append {s t : List Char} (hs : Solid s) (ht : Solid t) : Solid (s ++ t) :=
  List.forall_mem_append.mpr ⟨hs, ht⟩

/-- Whether the symbols from `low` to `high` are all solid. -/
def solidRange (low high : Char) : Bool :=
  [' ', '\t', '\r', '\n'].all fun blank => !(decide (low ≤ blank) && decide (blank ≤ high))

lemma isBlank_eq_false_of_solidRange {low high x : Char} (h : solidRange low high = true)
    (hlow : low ≤ x) (hhigh : x ≤ high) : isBlank x = false := by
  rw [solidRange, List.all_eq_true] at h
  by_contra hblank
  rw [Bool.not_eq_false] at hblank
  have hmem : x ∈ [' ', '\t', '\r', '\n'] := by simpa [isBlank, or_assoc] using hblank
  simpa [hlow, hhigh] using h x hmem

/-- From `c` to `c'` a text without blanks is read. -/
def Cursor.SolidTo (c c' : Cursor) : Prop := ∃ t, Solid t ∧ t <+: c.ahead ∧ c' = c.past t

namespace Cursor.SolidTo

variable {c c₁ c' : Cursor}

lemma refl (c : Cursor) : c.SolidTo c := ⟨[], List.forall_mem_nil _, List.nil_prefix, rfl⟩

lemma trans (h : c.SolidTo c₁) (h' : c₁.SolidTo c') : c.SolidTo c' := by
  obtain ⟨s, hs, hprefix, rfl⟩ := h
  obtain ⟨t, ht, hprefix', rfl⟩ := h'
  exact ⟨s ++ t, hs.append ht, append_prefix_ahead hprefix hprefix', past_past c s t⟩

lemma isVerbatim_eq (h : c.SolidTo c') : c'.isVerbatim = c.isVerbatim := by
  obtain ⟨t, -, -, rfl⟩ := h
  rfl

end Cursor.SolidTo

/-! ## Parses -/

namespace Parse

variable {α β : Type}

/-- Inside a verbatim token `p` reads no blanks. -/
def StaysSolid (p : Parse α) : Prop :=
  ∀ c a c', c.isVerbatim = true → p.Accepts c a c' → c.SolidTo c'

namespace StaysSolid

lemma pure (a : α) : (Pure.pure a : Parse α).StaysSolid := by
  intro c b c' _ h
  obtain ⟨-, rfl⟩ := accepts_pure_iff.mp h
  exact .refl c'

lemma fail (error : Cursor → ParseError) : (Parse.fail error : Parse α).StaysSolid :=
  fun _ _ _ _ h => absurd h not_accepts_fail

lemma fault (f : Fault) : (Parse.fault f : Parse α).StaysSolid := by
  rintro c a c' - ⟨n, h⟩
  cases h

/-- The second parse starts inside the token as well. -/
lemma bind {p : Parse α} {f : α → Parse β} (hp : p.StaysSolid) (hf : ∀ a, (f a).StaysSolid) :
    (p >>= f).StaysSolid := by
  intro c b c' hverbatim h
  obtain ⟨a, c₁, ha, h⟩ := accepts_bind_iff.mp h
  have hfirst := hp c a c₁ hverbatim ha
  exact hfirst.trans (hf a c₁ b c' (hfirst.isVerbatim_eq.trans hverbatim) h)

lemma consult {f : Cursor → Parse α} (hf : ∀ c, (f c).StaysSolid) : (get >>= f).StaysSolid :=
  fun c a c' hverbatim h => hf c c a c' hverbatim (accepts_get_bind_iff.mp h)

lemma speculate {p : Parse α} (hp : p.StaysSolid) (horderly : p.Orderly) :
    p.speculate.StaysSolid :=
  fun c a c' hverbatim h => hp c a c' hverbatim (horderly.accepts_speculate_iff.mp h)

lemma verbatim {p : Parse α} (hp : p.StaysSolid) : p.verbatim.StaysSolid := by
  intro c a c' _ h
  obtain ⟨c₁, hinner, rfl⟩ := accepts_verbatim_iff.mp h
  obtain ⟨t, ht, hprefix, rfl⟩ := hp c.enterVerbatim a c₁ c.isVerbatim_enterVerbatim hinner
  exact ⟨t, ht, hprefix, rfl⟩

lemma counted {p : Parse α} (hp : p.StaysSolid) : p.counted.StaysSolid :=
  fun c a c' hverbatim h => hp c a c' hverbatim (accepts_counted_iff.mp h)

end StaysSolid

end Parse

/-! ## Parsers -/

namespace Parser

open Parlance.Parse (StaysSolid)

variable {α β : Type} {p : Parser α}

/-- Inside a verbatim token a parser runs from where it stands. -/
lemma staysSolid_parse_iff : p.parse.StaysSolid ↔ p.attempt.StaysSolid := by
  have hsame : ∀ {c : Cursor} {a : α} {c' : Cursor}, c.isVerbatim = true →
      (p.parse.Accepts c a c' ↔ p.attempt.Accepts c a c') := by
    intro c a c' hverbatim
    show Parse.Accepts p.attempt (p.approach c) a c' ↔ _
    rw [approach_of_isVerbatim p hverbatim]
  exact ⟨fun h c a c' hverbatim ha => h c a c' hverbatim ((hsame hverbatim).mpr ha),
    fun h c a c' hverbatim ha => h c a c' hverbatim ((hsame hverbatim).mp ha)⟩

lemma staysSolid_literal {text : String} (h : Solid text.toList) :
    (literal text).parse.StaysSolid := by
  intro c value c' hverbatim haccepts
  obtain ⟨-, hprefix, rfl⟩ := accepts_literal_iff.mp haccepts
  rw [approach_of_isVerbatim _ hverbatim] at hprefix ⊢
  exact ⟨text.toList, h, hprefix, rfl⟩

lemma staysSolid_range {low high : Char} (h : solidRange low high = true) :
    (range low high).parse.StaysSolid := by
  intro c x c' hverbatim haccepts
  obtain ⟨hlow, hhigh, rest, hahead, rfl⟩ := accepts_range_iff.mp haccepts
  rw [approach_of_isVerbatim _ hverbatim] at hahead ⊢
  refine ⟨[x], List.forall_mem_singleton.mpr ?_, ?_, rfl⟩
  · exact isBlank_eq_false_of_solidRange h hlow hhigh
  · rw [hahead]
    exact List.prefix_append [x] rest

lemma staysSolid_convert (hp : p.parse.StaysSolid) (f : α → β) :
    (p.convert f).parse.StaysSolid := by
  intro c b c' hverbatim h
  obtain ⟨a, ha, -⟩ := accepts_convert_iff.mp h
  exact hp c a c' hverbatim ha

lemma staysSolid_map (tag : String) (hp : p.parse.StaysSolid) {f : α → Parse β}
    (hf : ∀ a, (f a).StaysSolid) : (map tag p f).parse.StaysSolid :=
  hp.bind hf

lemma staysSolid_few {parts : Parse α} (h : parts.StaysSolid) : (few parts).parse.StaysSolid := h

lemma staysSolid_parseAll {parsers : List (Parser α)} (h : ∀ p ∈ parsers, p.parse.StaysSolid) :
    (parseAll parsers).StaysSolid := by
  induction parsers with
  | nil => exact .pure []
  | cons p parsers ih =>
    obtain ⟨hp, hparsers⟩ := List.forall_mem_cons.mp h
    exact hp.bind fun _ => (ih hparsers).bind fun _ => .pure _

lemma staysSolid_only (hp : p.parse.StaysSolid) (horderly : p.parse.Orderly) :
    (only p).parse.StaysSolid := by
  refine (hp.speculate horderly).bind fun value => .consult fun c => ?_
  split
  · exact .pure value
  · exact .fail _

lemma staysSolid_verbatim (hp : p.parse.StaysSolid) : (verbatim p).parse.StaysSolid :=
  staysSolid_parse_iff.mpr hp.verbatim

lemma staysSolid_metered (hp : p.parse.StaysSolid) : (metered p).parse.StaysSolid :=
  hp.counted

/-- Going to where the attempt begins reads nothing here. -/
lemma staysSolid_spanned (hp : p.parse.StaysSolid) : (spanned p).parse.StaysSolid := by
  have happroach : (Parse.modify p.approach).StaysSolid := by
    intro c u c' hverbatim h
    obtain ⟨-, rfl⟩ := h.unique (Parse.accepts_modify p.approach c)
    rw [approach_of_isVerbatim p hverbatim]
    exact .refl c
  refine happroach.bind fun _ => .consult fun before => ?_
  exact (staysSolid_parse_iff.mp hp).bind fun value => .consult fun after => .pure _

/-! ### Choices and repetitions -/

lemma staysSolid_pick {branches : List (Parser α)} (horderly : ∀ p ∈ branches, p.parse.Orderly)
    (h : ∀ p ∈ branches, p.parse.StaysSolid) : (pick branches).parse.StaysSolid := by
  intro c a c' hverbatim haccepts
  obtain ⟨before, p, after, rfl, -, hp⟩ := (accepts_pick_iff horderly).mp haccepts
  exact h p (List.mem_append_right _ List.mem_cons_self) c a c' hverbatim hp

lemma staysSolid_pickPair {q : Parser α} (hp : p.parse.StaysSolid) (hq : q.parse.StaysSolid)
    (hp' : p.parse.Orderly) (hq' : q.parse.Orderly) : (pick [p, q]).parse.StaysSolid := by
  refine staysSolid_pick ?_ ?_
  · simpa using ⟨hp', hq'⟩
  · simpa using ⟨hp, hq⟩

lemma staysSolid_optional (hp : p.parse.StaysSolid) (horderly : p.parse.Orderly) :
    (optional p).parse.StaysSolid := by
  intro c found c' hverbatim h
  cases found with
  | none =>
    obtain ⟨rfl, -⟩ := (accepts_none_optional_iff horderly).mp h
    exact .refl c'
  | some a => exact hp c a c' hverbatim ((accepts_some_optional_iff horderly).mp h)

/-- Each value of a repetition is read without blanks. -/
lemma Repeats.solidTo (hp : p.parse.StaysSolid) {c c' : Cursor} {as : List α}
    (hverbatim : c.isVerbatim = true) (h : Repeats p c as c') : c.SolidTo c' := by
  induction h with
  | stop => exact .refl _
  | still ha => exact hp _ _ _ hverbatim ha
  | more ha _ _ ih =>
    have hfirst := hp _ _ _ hverbatim ha
    exact hfirst.trans (ih (hfirst.isVerbatim_eq.trans hverbatim))

lemma staysSolid_many (hp : p.parse.StaysSolid) (horderly : p.parse.Orderly) :
    (many p).parse.StaysSolid :=
  fun _ _ _ hverbatim h => ((accepts_many_iff horderly).mp h).solidTo hp hverbatim

lemma staysSolid_sequence (hp : p.parse.StaysSolid) (horderly : p.parse.Orderly) :
    (sequence p).parse.StaysSolid := by
  intro c as c' hverbatim h
  obtain ⟨a, c₁, more, ha, hmore, -⟩ := (accepts_sequence_iff horderly).mp h
  have hfirst := hp c a c₁ hverbatim ha
  exact hfirst.trans (hmore.solidTo hp (hfirst.isVerbatim_eq.trans hverbatim))

/-- Each choice of a schedule is read without blanks. -/
lemma Schedule.solidTo {branches : List (Parser α)} (h : ∀ p ∈ branches, p.parse.StaysSolid)
    {chosen : Finset ℕ} {c c' : Cursor} {choices : List (ℕ × α)} (hverbatim : c.isVerbatim = true)
    (hschedule : Schedule branches chosen c choices c') : c.SolidTo c' := by
  induction hschedule with
  | stop => exact .refl _
  | choose _ _ haccepts _ ih =>
    obtain ⟨p, hp⟩ := exists_getElem?_of_accepts_parseBranch haccepts
    rw [parseBranch_of_getElem? hp] at haccepts
    have hfirst := h p (List.mem_of_getElem? hp) _ _ _ hverbatim haccepts
    exact hfirst.trans (ih (hfirst.isVerbatim_eq.trans hverbatim))

lemma staysSolid_unordered {branches : List (Parser α)}
    (horderly : ∀ p ∈ branches, p.parse.Orderly) (h : ∀ p ∈ branches, p.parse.StaysSolid) :
    (unordered branches).parse.StaysSolid := by
  intro c values c' hverbatim haccepts
  obtain ⟨choices, hschedule, -⟩ := (accepts_unordered_iff horderly).mp haccepts
  exact hschedule.solidTo h hverbatim

end Parser

/-! ## Tokens -/

namespace Token

open Parlance.Parser
open Parlance.Parse (StaysSolid)

lemma staysSolid_alpha : alpha.parse.StaysSolid :=
  staysSolid_pickPair (staysSolid_range rfl) (staysSolid_range rfl)
    (Parse.compositional_orderly.range _ _).orderly (Parse.compositional_orderly.range _ _).orderly

lemma staysSolid_alphanumeric : alphanumeric.parse.StaysSolid :=
  staysSolid_pickPair staysSolid_alpha (staysSolid_range rfl)
    Parse.compositional_orderly.alpha.orderly (Parse.compositional_orderly.range _ _).orderly

lemma staysSolid_digits : (sequence digit).parse.StaysSolid :=
  staysSolid_sequence (staysSolid_range rfl) (Parse.compositional_orderly.range _ _).orderly

lemma staysSolid_nat : nat.parse.StaysSolid := by
  refine staysSolid_map _ (staysSolid_verbatim staysSolid_digits) fun digits => ?_
  split
  · exact .pure _
  · exact .fail _

lemma staysSolid_sign : sign.parse.StaysSolid := by
  refine staysSolid_pickPair (staysSolid_literal ?_) (staysSolid_literal ?_) ?_ ?_
  · decide
  · decide
  · exact (Parse.compositional_orderly.literal "+").orderly
  · exact (Parse.compositional_orderly.literal "-").orderly

lemma staysSolid_int : int.parse.StaysSolid := by
  have hsign : (optional sign).parse.StaysSolid :=
    staysSolid_optional staysSolid_sign Parse.compositional_orderly.sign.orderly
  have hparts := staysSolid_few (hsign.bind fun sign =>
    staysSolid_digits.bind fun digits => .pure (sign, digits))
  refine staysSolid_map _ (staysSolid_verbatim hparts) fun signed => ?_
  dsimp only
  split
  · split
    · exact .pure _
    · exact .fail _
  · exact .fail _

/-- A solid symbol is read because it is no blank. -/
lemma staysSolid_solid : solid.parse.StaysSolid := by
  refine staysSolid_parse_iff.mpr fun c x c' _ h => ?_
  obtain ⟨found, c₁, hadvance, h⟩ := Parse.accepts_bind_iff.mp h
  obtain ⟨rfl, rfl⟩ := hadvance.unique (Parse.accepts_advance c)
  cases hahead : c.ahead with
  | nil =>
    rw [Cursor.advance_of_nil hahead] at h
    exact absurd h Parse.not_accepts_fail
  | cons y rest =>
    rw [Cursor.advance_of_cons hahead] at h
    dsimp only at h
    split at h
    · exact absurd h Parse.not_accepts_fail
    · next hsolid =>
      obtain ⟨-, rfl⟩ := Parse.accepts_pure_iff.mp h
      refine ⟨[y], List.forall_mem_singleton.mpr (Bool.not_eq_true _ ▸ hsolid), ?_, rfl⟩
      rw [hahead]
      exact List.prefix_append [y] rest

lemma staysSolid_word : word.parse.StaysSolid :=
  staysSolid_map _ (staysSolid_verbatim
    (staysSolid_sequence staysSolid_solid Parse.compositional_orderly.solid.orderly))
    fun _ => .pure _

lemma staysSolid_identifier : identifier.parse.StaysSolid := by
  have hsymbol : identifierSymbol.parse.StaysSolid := by
    refine staysSolid_pick ?_ ?_
    · simpa using ⟨Parse.compositional_orderly.alphanumeric.orderly,
        (Parse.compositional_orderly.range '-' '-').orderly,
        (Parse.compositional_orderly.range '_' '_').orderly⟩
    · simpa using ⟨staysSolid_alphanumeric,
        staysSolid_range (show solidRange '-' '-' = true from rfl),
        staysSolid_range (show solidRange '_' '_' = true from rfl)⟩
  exact staysSolid_map _ (staysSolid_verbatim
    (staysSolid_sequence hsymbol Parse.compositional_orderly.identifierSymbol.orderly))
    fun _ => .pure _

end Token

/-- Whether a token is put together from solid symbols alone. -/
def TokenName.readsSolid : TokenName → Bool
  | .digit | .lowercase | .uppercase | .alpha | .alphanumeric | .nat | .int | .word
  | .identifier => true
  | _ => false

open Parlance.Parser in
lemma TokenName.staysSolid {name : TokenName} (h : name.readsSolid = true) :
    name.parser.parse.StaysSolid := by
  cases name with
  | digit | lowercase | uppercase => exact staysSolid_convert (staysSolid_range rfl) _
  | alpha => exact staysSolid_convert Token.staysSolid_alpha _
  | alphanumeric => exact staysSolid_convert Token.staysSolid_alphanumeric _
  | nat => exact staysSolid_convert Token.staysSolid_nat _
  | int => exact staysSolid_convert Token.staysSolid_int _
  | word => exact staysSolid_convert Token.staysSolid_word _
  | identifier => exact staysSolid_convert Token.staysSolid_identifier _
  | _ => cases h

/-! ## Grammars -/

/-- What is made of a value reads nothing, unless it reads one more symbol. -/
lemma Finish.staysSolid {finish : Finish} (h : finish ≠ .thenAdvance) (v : Value) :
    (finish.run v).StaysSolid := by
  cases finish with
  | identity => exact .pure v
  | offset => exact .consult fun c => .pure _
  | thenAdvance => exact absurd rfl h
  | rejectAhead | rejectSymbol | reject => exact .fail _

namespace Grammar

open Parlance.Parser

/-- Whether a grammar reads solid symbols alone, as long as its parts do. -/
def readsSolid : Grammar → Bool
  | .token name => name.readsSolid
  | .literal text => decide (Solid text.toList)
  | .range low high => solidRange low high
  | .few _ | .pick _ | .unordered _ | .many _ | .sequence _ | .optional _ | .only _ | .verbatim _
  | .spanned _ | .lazy _ | .grouped _ | .metered _ => true
  | .map _ finish _ => finish ≠ .thenAdvance
  | _ => false

variable {rules : Rules} {g : Grammar}

/-- A grammar whose leaves read solid symbols alone reads no others, if its rules do not. -/
theorem staysSolid_parserWith {rule : String → Parse Value} (horderly : ∀ name, (rule name).Orderly)
    (hsolid : ∀ node, g.Contains rules node → node.readsSolid = true)
    (hrule : ∀ name, g.Contains rules (.lazy name) → (rule name).StaysSolid) :
    (g.parserWith rule).parse.StaysSolid := by
  have hparse : ∀ g : Grammar, (g.parserWith rule).parse.Orderly := orderly_parserWith horderly
  have hbranches : ∀ gs : List Grammar, ∀ p ∈ parsersWith rule gs, p.parse.Orderly := fun gs =>
    forall_mem_parsersWith fun g _ => hparse g
  -- the induction is on the grammar; what it refers to is settled by `hrule`
  induction g using Grammar.ofParts with
  | _ g ih =>
    have hpart : ∀ part ∈ g.parts [], (part.parserWith rule).parse.StaysSolid := by
      intro part hpart
      have hmem : part ∈ g.parts rules := mem_parts_of_nil hpart
      exact ih part hpart (fun node hnode => hsolid node (.part hmem hnode))
        fun name hname => hrule name (.part hmem hname)
    have hg : g.readsSolid = true := hsolid g (.self g)
    cases g with
    | token name => exact TokenName.staysSolid hg
    | literal text => exact staysSolid_convert (staysSolid_literal (of_decide_eq_true hg)) _
    | range low high => exact staysSolid_convert (staysSolid_range hg) _
    | few gs =>
      exact staysSolid_convert
        (staysSolid_few (staysSolid_parseAll (forall_mem_parsersWith hpart))) _
    | pick gs => exact staysSolid_pick (hbranches gs) (forall_mem_parsersWith hpart)
    | unordered gs =>
      exact staysSolid_convert
        (staysSolid_unordered (hbranches gs) (forall_mem_parsersWith hpart)) _
    | many g =>
      exact staysSolid_convert (staysSolid_many (hpart g List.mem_cons_self) (hparse g)) _
    | sequence g =>
      exact staysSolid_convert (staysSolid_sequence (hpart g List.mem_cons_self) (hparse g)) _
    | optional g =>
      exact staysSolid_convert (staysSolid_optional (hpart g List.mem_cons_self) (hparse g)) _
    | only g => exact staysSolid_only (hpart g List.mem_cons_self) (hparse g)
    | verbatim g => exact staysSolid_verbatim (hpart g List.mem_cons_self)
    | spanned g => exact staysSolid_convert (staysSolid_spanned (hpart g List.mem_cons_self)) _
    | grouped g => exact hpart g List.mem_cons_self
    | metered g => exact staysSolid_metered (hpart g List.mem_cons_self)
    | lazy name => exact hrule name (.self _)
    | map tag finish g =>
      exact staysSolid_map tag (hpart g List.mem_cons_self)
        (Finish.staysSolid (of_decide_eq_true hg))
    | _ => cases hg

/-- A rule that contains such leaves alone reads solid symbols at any depth of references. -/
lemma staysSolid_runWithin (depth : ℕ) {name : String}
    (hsolid : ∀ node, (Grammar.lazy name).Contains rules node → node.readsSolid = true) :
    (rules.runWithin depth name).StaysSolid := by
  induction depth generalizing name with
  | zero => exact .fault _
  | succ depth ih =>
    rw [Rules.runWithin]
    cases hbody : List.lookup name rules with
    | none => exact .fault _
    | some body =>
      have hpart : body ∈ (Grammar.lazy name).parts rules := by
        rw [Grammar.parts, hbody]
        exact List.mem_singleton_self body
      refine staysSolid_parserWith (Parse.hereditary_orderly.runWithin rules depth)
        (fun node hnode => hsolid node (.part hpart hnode)) fun inner hinner => ?_
      exact ih fun node hnode => hsolid node (.part hpart (hinner.trans hnode))

/-- What a verbatim token reads is blanks, none of them if it stands inside another verbatim token,
and then a text without blanks, if all that it contains reads solid symbols alone, however its parts
are put together and whatever is tried and taken back on the way. -/
theorem verbatim_reads_solid
    (hsolid : ∀ node, g.Contains rules node → node.readsSolid = true) {c c' : Cursor} {v : Value}
    (h : ((Grammar.verbatim g).parser rules).parse.Accepts c v c') :
    ∃ blanks token, Blank blanks ∧ (c.isVerbatim = true → blanks = []) ∧ Solid token ∧
      blanks ++ token <+: c.ahead ∧ c' = c.past (blanks ++ token) := by
  have hrun : ∀ name, g.Contains rules (.lazy name) → (rules.run name).StaysSolid := by
    intro name hname c v c' hverbatim h
    have hname' : ∀ node, (Grammar.lazy name).Contains rules node → node.readsSolid = true :=
      fun node hnode => hsolid node (hname.trans hnode)
    exact staysSolid_runWithin (rules.depthFor c) hname' c v c' hverbatim h
  have hg : (g.parser rules).parse.StaysSolid :=
    staysSolid_parserWith (Parse.hereditary_orderly.run rules) hsolid hrun
  -- the blanks are skipped before the token is entered, if that is not inside another one
  have hskip : ∃ blanks, Blank blanks ∧ (c.isVerbatim = true → blanks = []) ∧
      blanks <+: c.ahead ∧ c.skipBlank = c.past blanks := by
    cases hverbatim : c.isVerbatim with
    | true =>
      exact ⟨[], blank_nil, fun _ => rfl, List.nil_prefix, Cursor.skipBlank_of_isVerbatim hverbatim⟩
    | false =>
      obtain ⟨blanks, hblanks, hprefix, heq⟩ := c.exists_blank_skipBlank_eq
      exact ⟨blanks, hblanks, fun h => absurd h Bool.false_ne_true, hprefix, heq⟩
  have hread : (g.parser rules).parse.verbatim.Accepts c.skipBlank v c' := h
  obtain ⟨blanks, hblanks, hnone, hprefix, heq⟩ := hskip
  obtain ⟨c₁, hinner, rfl⟩ := Parse.accepts_verbatim_iff.mp hread
  obtain ⟨token, htoken, hprefix', rfl⟩ :=
    hg _ v c₁ c.skipBlank.isVerbatim_enterVerbatim hinner
  rw [heq] at hprefix' ⊢
  exact ⟨blanks, token, hblanks, hnone, htoken, Cursor.append_prefix_ahead hprefix hprefix',
    Cursor.past_past c blanks token⟩

/-- Letters in parts, each a reference to the same rule, and a symbol before or after them. -/
theorem verbatim_reads_solid_path :
    let rules : Rules := [("path",
      .few [.sequence (.range 'a' 'z'), .optional (.few [.literal "/", .lazy "path"])])]
    let g := Grammar.unordered [.literal "é", .lazy "path"]
    let c := Cursor.ofString " \tab/cé d"
    let c' := c.past " \tab/cé".toList
    (∀ node, g.Contains rules node → node.readsSolid = true) ∧
      (∃ v, ((Grammar.verbatim g).parser rules).parse.Accepts c v c') ∧
      ∃ blanks token, Blank blanks ∧ (c.isVerbatim = true → blanks = []) ∧ Solid token ∧
        blanks ++ token <+: c.ahead ∧ c' = c.past (blanks ++ token) := by
  intro rules g c c'
  have hsolid : ∀ node, g.Contains rules node → node.readsSolid = true := by
    intro node hnode
    let later := Grammar.few [.literal "/", .lazy "path"]
    have hmem : node ∈ [g, .literal "é", .lazy "path",
        .few [.sequence (.range 'a' 'z'), .optional later], .sequence (.range 'a' 'z'),
        .range 'a' 'z', .optional later, later, .literal "/"] :=
      hnode.induct (by simp [g, rules, later, Grammar.parts]) List.mem_cons_self
    simp only [List.mem_cons, List.not_mem_nil, or_false] at hmem
    rcases hmem with rfl | rfl | rfl | rfl | rfl | rfl | rfl | rfl | rfl <;> decide
  have haccepts : ((Grammar.verbatim g).parser rules).parse.Accepts c
      (.list [.str "é", .list [.list [.char 'a', .char 'b'],
        .list [.str "/", .list [.list [.char 'c'], .null]]]]) c' := ⟨0, by decide +kernel⟩
  exact ⟨hsolid, ⟨_, haccepts⟩, verbatim_reads_solid hsolid haccepts⟩

end Grammar

end Parlance
