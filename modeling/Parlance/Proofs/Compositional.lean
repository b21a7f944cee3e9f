import Parlance.Proofs.Steps
import Mathlib.Data.List.Forall2

/-!
# Relations that combinators pass on

Two parses are compared, which may be run from different cursors. A relation between parses is
`Compositional` if the steps are related to themselves and if sequencing, trying and the like pass
it on. Then every combinator passes it on, from the parsers that it is given to the parser that it
makes (`Parser.Alike`). Where the name of a parser does not matter, it is enough that the parses that
a combinator makes use of are related (`Parser.ParsesAlike` for lists).

Which cursors are compared is left open: `near` holds of the cursors that the two parses may be run
from, and a step may look at the cursor only for what near cursors have in common. The text ahead is
always part of that. What only some relations have is kept apart: `SeesPlace` is needed for parsers
that look at the position, and `TakesBack` for those that run another one speculatively.
-/

namespace Parlance

open Parlance.Parser

/-- A relation between parses that holds of every step and that every way to combine parses passes
on. -/
structure Compositional (near : Cursor → Cursor → Prop)
    (R : ∀ α : Type, Parse α → Parse α → Prop) : Prop where
  ahead_eq : ∀ {c d}, near c d → c.ahead = d.ahead
  pure : ∀ {α} (a : α), R α (pure a) (pure a)
  bind : ∀ {α β} {p q : Parse α} {f g : α → Parse β}, R α p q → (∀ a, R β (f a) (g a)) →
    R β (p >>= f) (q >>= g)
  /-- The cursor may be looked at for what near cursors have in common. -/
  consult : ∀ {α} {f g : Cursor → Parse α}, (∀ c d, near c d → R α (f c) (g d)) →
    R α (Parse.get >>= f) (Parse.get >>= g)
  /-- It may be asked whether any text was read. -/
  measured : ∀ {α} {p q : Parse α}, R α p q → R _ p.measured q.measured
  advance : R _ Parse.advance Parse.advance
  advanceBytes : ∀ n, R _ (Parse.modify (·.advanceBytes n)) (Parse.modify (·.advanceBytes n))
  skipBlank : R _ (Parse.modify Cursor.skipBlank) (Parse.modify Cursor.skipBlank)
  fail : ∀ {α} (k : Complaint), R α (Parse.fail k.errorAt) (Parse.fail k.errorAt)
  tentatively : ∀ {α} {p q : Parse α}, R α p q → R _ p.tentatively q.tentatively
  verbatim : ∀ {α} {p q : Parse α}, R α p q → R α p.verbatim q.verbatim
  counted : ∀ {α} {p q : Parse α}, R α p q → R α p.counted q.counted

/-- Near cursors are at the same place. -/
def SeesPlace (near : Cursor → Cursor → Prop) : Prop := ∀ {c d}, near c d → c.place = d.place

/-- The relation is passed on to speculative runs. -/
def TakesBack (R : ∀ α : Type, Parse α → Parse α → Prop) : Prop :=
  ∀ {α} {p q : Parse α}, R α p q → R α p.speculate q.speculate

/-- Parsers of one name that skip blanks alike and whose attempts are related. -/
structure Parser.Alike (R : ∀ α : Type, Parse α → Parse α → Prop) {α : Type}
    (p q : Parser α) : Prop where
  tag_eq : p.tag = q.tag
  skipsBlank_eq : p.skipsBlank = q.skipsBlank
  attempt : R α p.attempt q.attempt

/-- Parsers whose parses are related one by one. -/
abbrev Parser.ParsesAlike (R : ∀ α : Type, Parse α → Parse α → Prop) {α : Type}
    (ps qs : List (Parser α)) : Prop :=
  List.Forall₂ (fun p q => R α p.parse q.parse) ps qs

namespace Compositional

variable {near : Cursor → Cursor → Prop} {R : ∀ α : Type, Parse α → Parse α → Prop}
  {α β : Type} {p q : Parser α} {ps qs : List (Parser α)}

/-! ## Parsers -/

/-- Both parsers skip blanks, or neither does. -/
lemma approach (h : Compositional near R) (hskips : p.skipsBlank = q.skipsBlank) :
    R Unit (Parse.modify p.approach) (Parse.modify q.approach) := by
  by_cases hskip : p.skipsBlank
  · have hskip' : q.skipsBlank := hskips ▸ hskip
    rw [show p.approach = Cursor.skipBlank from funext fun c => if_pos hskip,
      show q.approach = Cursor.skipBlank from funext fun c => if_pos hskip']
    exact h.skipBlank
  · have hskip' : ¬ q.skipsBlank := hskips ▸ hskip
    rw [show p.approach = id from funext fun c => if_neg hskip,
      show q.approach = id from funext fun c => if_neg hskip']
    exact h.pure ()

lemma parseOf (h : Compositional near R) (hskips : p.skipsBlank = q.skipsBlank)
    (hattempt : R α p.attempt q.attempt) : R α p.parse q.parse := by
  rw [parse_eq_bind, parse_eq_bind]
  exact h.bind (h.approach hskips) fun _ => hattempt

lemma parse (h : Compositional near R) (hpq : Alike R p q) : R α p.parse q.parse :=
  h.parseOf hpq.skipsBlank_eq hpq.attempt

lemma parses (h : Compositional near R) (hall : List.Forall₂ (Alike R) ps qs) :
    ParsesAlike R ps qs :=
  hall.imp fun _ _ => h.parse

lemma convert (h : Compositional near R) (hpq : Alike R p q) (f : α → β) :
    Alike R (p.convert f) (q.convert f) :=
  ⟨hpq.tag_eq, hpq.skipsBlank_eq, h.bind hpq.attempt fun a => h.pure (f a)⟩

lemma reject (h : Compositional near R) (message : String) :
    R α (Parse.reject message) (Parse.reject message) :=
  h.fail (.refused message)

lemma unexpected (h : Compositional near R) (expected : String) :
    R α (Parse.fail (Cursor.unexpectedSymbol expected))
      (Parse.fail (Cursor.unexpectedSymbol expected)) :=
  h.fail (.unexpected expected)

/-- One symbol is read, and `f` says what becomes of it. -/
lemma advanceThen (h : Compositional near R) {f : Option Char → Parse α}
    (hf : ∀ found, R α (f found) (f found)) :
    R α (Parse.advance >>= f) (Parse.advance >>= f) :=
  h.bind h.advance hf

/-! ### Symbols -/

lemma matchSymbols (h : Compositional near R) (text : String) (symbols : List Char) :
    R Unit (matchSymbols text symbols) (matchSymbols text symbols) := by
  induction symbols with
  | nil => exact h.pure ()
  | cons wanted rest ih =>
    refine h.advanceThen fun found => ?_
    split
    · exact ih
    · exact h.unexpected _

lemma literal (h : Compositional near R) (text : String) :
    Alike R (literal text) (literal text) :=
  ⟨rfl, rfl, h.bind (h.matchSymbols text text.toList) fun _ => h.pure text⟩

lemma range (h : Compositional near R) (low high : Char) :
    Alike R (range low high) (range low high) := by
  refine ⟨rfl, rfl, h.advanceThen fun found => ?_⟩
  cases found with
  | none => exact h.unexpected _
  | some c =>
    dsimp only
    split
    · exact h.pure c
    · exact h.unexpected _

lemma rest (h : Compositional near R) : Alike R rest rest := by
  refine ⟨rfl, rfl, h.consult fun c d hnear => ?_⟩
  rw [Cursor.tail, Cursor.tail, h.ahead_eq hnear]
  exact h.bind (h.advanceBytes _) fun _ => h.pure _

/-! ### Patterns -/

lemma searching (h : Compositional near R) (p : Pattern)
    {f : List Char → Regex.Match → Parse α} (hf : ∀ text m, R α (f text m) (f text m)) :
    R α (searching p f) (searching p f) := by
  rw [searching_eq]
  refine h.consult fun c d hnear => ?_
  rw [Cursor.tail, Cursor.tail, h.ahead_eq hnear]
  cases p.regex.find? d.ahead with
  | none => exact h.fail _
  | some m => exact hf d.ahead m

lemma pattern (h : Compositional near R) (p : Pattern) : Alike R (pattern p) (pattern p) := by
  refine ⟨rfl, rfl, ?_⟩
  rw [attempt_pattern]
  exact h.searching p fun _ _ => h.bind (h.advanceBytes _) fun _ => h.pure _

lemma capture (h : Compositional near R) (p : Pattern) : Alike R (capture p) (capture p) := by
  refine ⟨rfl, rfl, ?_⟩
  rw [attempt_capture]
  exact h.searching p fun _ _ => h.bind (h.advanceBytes _) fun _ => h.pure _

/-! ### Wrappers -/

lemma few {parts parts' : Parse α} (hparts : R α parts parts') :
    Alike R (few parts) (few parts') :=
  ⟨rfl, rfl, hparts⟩

lemma parseAll (h : Compositional near R) (hall : ParsesAlike R ps qs) :
    R (List α) (parseAll ps) (parseAll qs) := by
  induction hall with
  | nil => exact h.pure []
  | cons hpq _ ih =>
    exact h.bind hpq fun value => h.bind ih fun values => h.pure (value :: values)

lemma map (h : Compositional near R) (tag : String) (hpq : Alike R p q) {f g : α → Parse β}
    (hf : ∀ a, R β (f a) (g a)) : Alike R (map tag p f) (map tag q g) :=
  ⟨rfl, rfl, h.bind (h.parse hpq) hf⟩

lemma attempt_only (h : Compositional near R) (hback : TakesBack R) (hpq : R α p.parse q.parse) :
    R α (only p).attempt (only q).attempt := by
  refine h.bind (hback hpq) fun value => h.consult fun c d hnear => ?_
  have hend : c.isAtEnd = d.isAtEnd := congrArg List.isEmpty (h.ahead_eq hnear)
  rw [hend]
  split
  · exact h.pure value
  · exact h.fail .leftOver

lemma only (h : Compositional near R) (hback : TakesBack R) (hpq : Alike R p q) :
    Alike R (only p) (only q) :=
  ⟨congrArg (fun tag => "only(" ++ tag ++ ")") hpq.tag_eq, rfl, h.attempt_only hback (h.parse hpq)⟩

lemma verbatimToken (h : Compositional near R) (hpq : Alike R p q) :
    Alike R (Parser.verbatim p) (Parser.verbatim q) :=
  ⟨hpq.tag_eq, rfl, h.verbatim (h.parse hpq)⟩

/-- The span begins where the blanks in front end, so the skipping of blanks matters by itself. -/
lemma attempt_spanned (h : Compositional near R) (hplace : SeesPlace near)
    (hskips : p.skipsBlank = q.skipsBlank) (hattempt : R α p.attempt q.attempt) :
    R (α × Span) (spanned p).attempt (spanned q).attempt := by
  have hoffset : ∀ {c d : Cursor}, near c d → c.offset = d.offset :=
    fun hnear => congrArg (fun place : Place => place.position.offset) (hplace hnear)
  refine h.bind (h.approach hskips) fun _ => h.consult fun before before' hbefore => ?_
  refine h.bind hattempt fun value => h.consult fun after after' hafter => ?_
  rw [hoffset hbefore, hoffset hafter]
  exact h.pure _

lemma spanned (h : Compositional near R) (hplace : SeesPlace near) (hpq : Alike R p q) :
    Alike R (spanned p) (spanned q) :=
  ⟨hpq.tag_eq, rfl, h.attempt_spanned hplace hpq.skipsBlank_eq hpq.attempt⟩

lemma metered (h : Compositional near R) (hpq : Alike R p q) :
    Alike R (metered p) (metered q) :=
  ⟨hpq.tag_eq, hpq.skipsBlank_eq, h.counted hpq.attempt⟩

/-! ### Choices -/

lemma describe_eq (hall : List.Forall₂ (Alike R) ps qs) : describe ps = describe qs := by
  have htags : ps.map tag = qs.map tag := by
    induction hall with
    | nil => rfl
    | cons hpq _ ih => rw [List.map_cons, List.map_cons, hpq.tag_eq, ih]
  rw [describe, describe, htags]

lemma firstOf (h : Compositional near R) (hall : ParsesAlike R ps qs) :
    R (Option α) (firstOf ps) (firstOf qs) := by
  induction hall with
  | nil => exact h.pure none
  | cons hpq _ ih =>
    refine h.bind (h.tentatively hpq) fun found => ?_
    cases found with
    | some value => exact h.pure (some value)
    | none => exact ih

/-- A choice that finds nothing complains under its own name. -/
lemma attempt_pick (h : Compositional near R) (hall : ParsesAlike R ps qs)
    (hended : R α (Parse.fail (Cursor.unexpectedEnd (pickTag ps)))
      (Parse.fail (Cursor.unexpectedEnd (pickTag qs)))) :
    R α (pick ps).attempt (pick qs).attempt := by
  refine h.bind (h.firstOf hall) fun found => ?_
  cases found with
  | some value => exact h.pure value
  | none => exact hended

lemma pick (h : Compositional near R) (hall : List.Forall₂ (Alike R) ps qs) :
    Alike R (pick ps) (pick qs) := by
  have htag : pickTag ps = pickTag qs := by rw [pickTag, pickTag, describe_eq hall]
  refine ⟨htag, rfl, h.attempt_pick (h.parses hall) ?_⟩
  rw [htag]
  exact h.fail (.ended _)

lemma optional (h : Compositional near R) (hpq : Alike R p q) :
    Alike R (optional p) (optional q) :=
  ⟨rfl, rfl, h.tentatively (h.parse hpq)⟩

/-- A choice between fixed texts. -/
lemma pickLiterals (h : Compositional near R) (texts : List String) :
    Alike R (Parser.pick (texts.map Parser.literal)) (Parser.pick (texts.map Parser.literal)) := by
  refine h.pick (List.forall₂_same.mpr fun p hp => ?_)
  obtain ⟨text, -, rfl⟩ := List.mem_map.mp hp
  exact h.literal text

/-! ### Repetitions -/

lemma repeated (h : Compositional near R) (hpq : R α p.parse q.parse) (limit : ℕ) :
    R (List α) (repeated p limit) (repeated q limit) := by
  induction limit with
  | zero => exact h.pure []
  | succ limit ih =>
    rw [repeated_succ, repeated_succ]
    refine h.bind (h.measured (h.tentatively hpq)) fun ⟨found, moved⟩ => ?_
    cases found with
    | none => exact h.pure []
    | some value =>
      cases moved with
      | true => exact h.bind ih fun values => h.pure (value :: values)
      | false => exact h.pure [value]

lemma repeatAhead (h : Compositional near R) (hpq : R α p.parse q.parse) :
    R (List α) (repeatAhead p) (repeatAhead q) := by
  refine h.consult fun c d hnear => ?_
  rw [h.ahead_eq hnear]
  exact h.repeated hpq _

lemma many (h : Compositional near R) (hpq : Alike R p q) : Alike R (many p) (many q) :=
  ⟨congrArg (fun tag => "many(" ++ tag ++ ")") hpq.tag_eq, rfl, h.repeatAhead (h.parse hpq)⟩

lemma attempt_sequence (h : Compositional near R) (hpq : R α p.parse q.parse) :
    R (List α) (sequence p).attempt (sequence q).attempt :=
  h.bind hpq fun _ => h.bind (h.repeatAhead hpq) fun _ => h.pure _

lemma sequence (h : Compositional near R) (hpq : Alike R p q) :
    Alike R (sequence p) (sequence q) :=
  ⟨congrArg (fun tag => "sequence(" ++ tag ++ ")") hpq.tag_eq, rfl,
    h.attempt_sequence (h.parse hpq)⟩

/-! ### Any order -/

/-- At each place there is a branch in both lists, or in neither. -/
lemma getElem?_cases (hall : ParsesAlike R ps qs) (place : ℕ) :
    ps[place]? = none ∧ qs[place]? = none ∨
      ∃ p q, ps[place]? = some p ∧ qs[place]? = some q ∧ R α p.parse q.parse := by
  induction hall generalizing place with
  | nil => exact Or.inl ⟨rfl, rfl⟩
  | @cons p q _ _ hpq _ ih =>
    cases place with
    | zero => exact Or.inr ⟨p, q, rfl, rfl, hpq⟩
    | succ place => exact ih place

lemma parseBranch (h : Compositional near R) (hall : ParsesAlike R ps qs) (place : ℕ) :
    R α (parseBranch ps place) (parseBranch qs place) := by
  unfold Parser.parseBranch
  rcases getElem?_cases hall place with ⟨hp, hq⟩ | ⟨p, q, hp, hq, hpq⟩
  · rw [hp, hq]
    exact h.reject _
  · rw [hp, hq]
    exact hpq

lemma settlePlace (h : Compositional near R) (hall : ParsesAlike R ps qs) (places : List ℕ) :
    R _ (settlePlace ps places) (settlePlace qs places) := by
  induction places with
  | nil => exact h.pure none
  | cons place places ih =>
    refine h.bind (h.tentatively (h.parseBranch hall place)) fun found => ?_
    cases found with
    | some value => exact h.pure _
    | none =>
      refine h.bind ih fun settled => ?_
      cases settled <;> exact h.pure _

lemma settlePlaces (h : Compositional near R) (hall : ParsesAlike R ps qs) (count : ℕ)
    (places : List ℕ) : R _ (settlePlaces ps count places) (settlePlaces qs count places) := by
  induction count generalizing places with
  | zero => exact h.pure []
  | succ count ih =>
    refine h.bind (h.settlePlace hall places) fun found => ?_
    cases found with
    | none => exact h.unexpected _
    | some found => exact h.bind (ih found.2) fun later => h.pure _

lemma attempt_unordered (h : Compositional near R) (hall : ParsesAlike R ps qs) :
    R (List α) (unordered ps).attempt (unordered qs).attempt := by
  show R _ (settle ps.length ps.zipIdx >>= _) (settle qs.length qs.zipIdx >>= _)
  rw [zipIdx_eq_pendingAt, zipIdx_eq_pendingAt, settle_pendingAt, settle_pendingAt,
    hall.length_eq]
  exact h.bind (h.settlePlaces hall _ _) fun _ => h.pure _

lemma unordered (h : Compositional near R) (hall : List.Forall₂ (Alike R) ps qs) :
    Alike R (unordered ps) (unordered qs) :=
  ⟨congrArg (fun text => "unordered(" ++ text ++ ")") (describe_eq hall), rfl,
    h.attempt_unordered (h.parses hall)⟩

end Compositional

end Parlance
