import Parlance.Parser.Wrapper
import Parlance.Proofs.Choice
import Parlance.Proofs.Frame
import Parlance.Proofs.Repetition
import Parlance.Proofs.Terminal

/-!
# What verbatim tokens read

A token is most often a parser that is run as one verbatim token and whose value is then converted:
it is run from behind the blanks, and there it decides (`accepts_token_iff`).

Inside a verbatim token, a parser that takes any single symbol of one kind (`TakesOne`) is repeated
for as long as symbols of that kind follow, and no longer. Ranges take one symbol of a kind, and so
do choices between such parsers. A token of such symbols is their longest run behind the blanks
(`TakesOne.accepts_run_iff`).
-/

namespace Parlance.Parser

/-! ## Tokens with a value -/

section Token

variable {α β : Type} {tag : String} {p : Parser α} {f : α → β} {c c' : Cursor}

/-- A token is run from behind the blanks, and what becomes of its value is decided outside it. -/
lemma accepts_map_verbatim_iff {f : α → Parse β} {b : β} :
    (map tag (verbatim p) f).parse.Accepts c b c' ↔
      ∃ a c₁, p.parse.Accepts c.skipBlank.enterVerbatim a c₁
        ∧ (f a).Accepts c₁.exitVerbatim b c' := by
  show Parse.Accepts ((verbatim p).parse >>= _) c b c' ↔ _
  rw [Parse.accepts_bind_iff]
  constructor
  · intro ⟨a, c₂, htoken, hvalue⟩
    obtain ⟨c₁, hread, rfl⟩ := Parse.accepts_verbatim_iff.mp htoken
    exact ⟨a, c₁, hread, hvalue⟩
  · intro ⟨a, c₁, hread, hvalue⟩
    exact ⟨a, c₁.exitVerbatim, Parse.accepts_verbatim_iff.mpr ⟨c₁, hread, rfl⟩, hvalue⟩

lemma rejects_map_verbatim_iff {f : α → Parse β} {e : ParseError} :
    (map tag (verbatim p) f).parse.Rejects c e c' ↔
      (∃ c₁, p.parse.Rejects c.skipBlank.enterVerbatim e c₁ ∧ c' = c₁.exitVerbatim) ∨
        ∃ a c₁, p.parse.Accepts c.skipBlank.enterVerbatim a c₁
          ∧ (f a).Rejects c₁.exitVerbatim e c' := by
  show Parse.Rejects ((verbatim p).parse >>= _) c e c' ↔ _
  rw [Parse.rejects_bind_iff]
  refine or_congr Parse.rejects_verbatim_iff ⟨fun ⟨a, c₂, htoken, hvalue⟩ => ?_, ?_⟩
  · obtain ⟨c₁, hread, rfl⟩ := Parse.accepts_verbatim_iff.mp htoken
    exact ⟨a, c₁, hread, hvalue⟩
  · intro ⟨a, c₁, hread, hvalue⟩
    exact ⟨a, c₁.exitVerbatim, Parse.accepts_verbatim_iff.mpr ⟨c₁, hread, rfl⟩, hvalue⟩

/-- A token is run from behind the blanks, and its value is converted. -/
lemma accepts_token_iff {b : β} :
    (map tag (verbatim p) fun a => pure (f a)).parse.Accepts c b c' ↔
      ∃ a c₁, p.parse.Accepts c.skipBlank.enterVerbatim a c₁ ∧ b = f a ∧ c' = c₁.exitVerbatim := by
  simp only [accepts_map_verbatim_iff, Parse.accepts_pure_iff]

lemma rejects_token_iff {e : ParseError} :
    (map tag (verbatim p) fun a => pure (f a)).parse.Rejects c e c' ↔
      ∃ c₁, p.parse.Rejects c.skipBlank.enterVerbatim e c₁ ∧ c' = c₁.exitVerbatim :=
  rejects_map_verbatim_iff.trans
    (or_iff_left fun ⟨_, _, _, h⟩ => Parse.not_rejects_pure h)

lemma fails_token_iff :
    (map tag (verbatim p) fun a => pure (f a)).parse.Fails c ↔
      p.parse.Fails c.skipBlank.enterVerbatim := by
  constructor
  · intro ⟨e, c', h⟩
    obtain ⟨c₁, h, -⟩ := rejects_token_iff.mp h
    exact h.fails
  · intro ⟨e, c₁, h⟩
    exact ⟨e, c₁.exitVerbatim, rejects_token_iff.mpr ⟨c₁, h, rfl⟩⟩

/-- A sequence as a token fails as its first value does: where `missing` holds, with an error that
is made behind `taken`. -/
lemma rejects_sequence_token_iff {f : List α → β} {missing : Prop} {taken : List Char}
    {error : Cursor → ParseError} {e : ParseError} (herror : ∀ d, error d.exitVerbatim = error d)
    (hfirst : ∀ e c₁, p.parse.Rejects c.skipBlank.enterVerbatim e c₁ ↔
      missing ∧ c₁ = c.skipBlank.enterVerbatim.past taken ∧ e = error c₁) :
    (map tag (verbatim (sequence p)) fun values => pure (f values)).parse.Rejects c e c' ↔
      missing ∧ c' = c.skipBlank.past taken ∧ e = error c' := by
  simp only [rejects_token_iff, rejects_sequence_iff, hfirst]
  constructor
  · rintro ⟨c₁, ⟨hmissing, rfl, rfl⟩, rfl⟩
    exact ⟨hmissing, rfl, (herror _).symm⟩
  · rintro ⟨hmissing, rfl, rfl⟩
    exact ⟨_, ⟨hmissing, rfl, herror (c.skipBlank.enterVerbatim.past taken)⟩, rfl⟩

end Token

/-! ## Symbols of one kind -/

section Kind

variable {p : Parser Char} {kind : Char → Bool} {c c' : Cursor} {symbols : List Char}
  {tag value : String}

/-- Inside a verbatim token `p` takes the next symbol if that is of the given kind, and fails
otherwise. -/
structure TakesOne (p : Parser Char) (kind : Char → Bool) : Prop where
  orderly : p.parse.Orderly
  accepts : ∀ {c x rest}, c.isVerbatim = true → c.ahead = x :: rest → kind x = true →
    p.parse.Accepts c x (c.past [x])
  fails : ∀ {c}, c.isVerbatim = true → c.ahead.takeWhile kind = [] → p.parse.Fails c

namespace TakesOne

variable (hp : p.TakesOne kind)

include hp

section Inside

variable (hverbatim : c.isVerbatim = true)

include hverbatim

lemma fails_iff : p.parse.Fails c ↔ c.ahead.takeWhile kind = [] := by
  refine ⟨fun hfails => ?_, hp.fails hverbatim⟩
  cases hahead : c.ahead with
  | nil => rfl
  | cons x rest =>
    refine List.takeWhile_cons_of_neg fun hx => ?_
    exact (hp.accepts hverbatim hahead hx).not_fails hfails

/-- Symbols of the kind are taken one by one, up to the first that is of another. -/
theorem repeats : Repeats p c (c.ahead.takeWhile kind) (c.past (c.ahead.takeWhile kind)) := by
  induction hahead : c.ahead generalizing c with
  | nil => exact .stop (hp.fails hverbatim (by rw [hahead]; rfl))
  | cons x rest ih =>
    by_cases hx : kind x = true
    · have hone := hp.accepts hverbatim hahead hx
      have hlater := ih (c := c.past [x]) hverbatim (Cursor.ahead_past_of_eq (t := [x]) hahead)
      rw [Cursor.past_past] at hlater
      rw [List.takeWhile_cons_of_pos hx]
      exact .more hone (offset_past_ne c (List.cons_ne_nil x [])) hlater
    · have hnone : (x :: rest).takeWhile kind = [] := List.takeWhile_cons_of_neg hx
      rw [hnone]
      exact .stop (hp.fails hverbatim (by rw [hahead]; exact hnone))

/-- At least one symbol is taken, and all that follow. -/
theorem accepts_sequence_iff :
    (sequence p).parse.Accepts c symbols c' ↔
      symbols = c.ahead.takeWhile kind ∧ symbols ≠ [] ∧ c' = c.past symbols := by
  rw [Parser.accepts_sequence_iff hp.orderly]
  by_cases hnone : c.ahead.takeWhile kind = []
  · refine iff_of_false (fun ⟨a, c₁, more, hone, _⟩ => ?_) fun ⟨hsymbols, hne, _⟩ => ?_
    · exact hone.not_fails (hp.fails hverbatim hnone)
    · exact hne (hsymbols.trans hnone)
  · obtain ⟨x, rest, hahead⟩ : ∃ x rest, c.ahead = x :: rest :=
      List.exists_cons_of_ne_nil fun hnil => hnone (by rw [hnil]; rfl)
    have hx : kind x = true := by
      by_contra hx
      exact hnone (by rw [hahead, List.takeWhile_cons_of_neg hx])
    have hone := hp.accepts hverbatim hahead hx
    have hmore := hp.repeats (c := c.past [x]) hverbatim
    rw [Cursor.ahead_past_of_eq (t := [x]) hahead, Cursor.past_past] at hmore
    rw [hahead, List.takeWhile_cons_of_pos hx]
    constructor
    · rintro ⟨a, c₁, more, hone', hmore', rfl⟩
      obtain ⟨rfl, rfl⟩ := hone'.unique hone
      obtain ⟨rfl, rfl⟩ := (hmore'.accepts_many hp.orderly).unique (hmore.accepts_many hp.orderly)
      exact ⟨rfl, List.cons_ne_nil _ _, rfl⟩
    · rintro ⟨rfl, -, rfl⟩
      exact ⟨x, c.past [x], _, hone, hmore, rfl⟩

lemma fails_sequence_iff : (sequence p).parse.Fails c ↔ c.ahead.takeWhile kind = [] := by
  constructor
  · intro hfails
    by_contra hne
    have hread := (hp.accepts_sequence_iff hverbatim).mpr ⟨rfl, hne, rfl⟩
    exact hread.not_fails hfails
  · intro hnone
    exact (hp.fails hverbatim hnone).bind _

end Inside

/-- A token of such symbols is all of them behind the blanks, and there is one at least. -/
theorem accepts_run_iff :
    (map tag (verbatim (sequence p)) fun symbols => pure (String.ofList symbols)).parse.Accepts
        c value c' ↔
      c.skipBlank.ahead.takeWhile kind ≠ [] ∧ value.toList = c.skipBlank.ahead.takeWhile kind
        ∧ c' = c.skipBlank.past value.toList := by
  have hverbatim : c.skipBlank.enterVerbatim.isVerbatim = true :=
    c.skipBlank.isVerbatim_enterVerbatim
  rw [accepts_token_iff]
  constructor
  · rintro ⟨symbols, c₁, hread, rfl, rfl⟩
    obtain ⟨rfl, hne, rfl⟩ := (hp.accepts_sequence_iff hverbatim).mp hread
    rw [String.toList_ofList]
    exact ⟨hne, rfl, rfl⟩
  · rintro ⟨hne, hvalue, rfl⟩
    rw [← hvalue] at hne
    exact ⟨value.toList, _, (hp.accepts_sequence_iff hverbatim).mpr ⟨hvalue, hne, rfl⟩,
      String.ofList_toList.symm, rfl⟩

/-- There is one just where the text behind the blanks begins with a symbol of the kind. -/
lemma exists_accepts_run_iff :
    (∃ value c', (map tag (verbatim (sequence p)) fun symbols =>
        pure (String.ofList symbols)).parse.Accepts c value c') ↔
      ∃ x ∈ c.skipBlank.ahead.head?, kind x = true := by
  rw [← takeWhile_ne_nil_iff_head?]
  simp only [hp.accepts_run_iff]
  constructor
  · rintro ⟨_, _, hne, -⟩
    exact hne
  · intro hne
    exact ⟨String.ofList (c.skipBlank.ahead.takeWhile kind), _, hne, String.toList_ofList, rfl⟩

/-- It is as long as it can be. -/
lemma longestRun_of_accepts
    (h : (map tag (verbatim (sequence p)) fun symbols =>
      pure (String.ofList symbols)).parse.Accepts c value c') :
    LongestRun kind c.skipBlank.ahead value.toList ∧ c' = c.skipBlank.past value.toList := by
  obtain ⟨-, hvalue, hc'⟩ := hp.accepts_run_iff.mp h
  exact ⟨longestRun_iff.mpr hvalue, hc'⟩

lemma fails_run_iff :
    (map tag (verbatim (sequence p)) fun symbols => pure (String.ofList symbols)).parse.Fails c ↔
      c.skipBlank.ahead.takeWhile kind = [] := by
  rw [fails_token_iff, hp.fails_sequence_iff c.skipBlank.isVerbatim_enterVerbatim]
  rfl

end TakesOne

/-! ### Parsers of one symbol -/

lemma TakesOne.congr {kind' : Char → Bool} (hp : p.TakesOne kind) (h : ∀ x, kind' x = kind x) :
    p.TakesOne kind' := by
  rw [funext h]
  exact hp

lemma takesOne_range (low high : Char) :
    (range low high).TakesOne fun x => low ≤ x ∧ x ≤ high where
  orderly := (Parse.compositional_orderly.range low high).orderly
  accepts {c x rest} hverbatim hahead hx := by
    rw [accepts_range_iff, approach_of_isVerbatim _ hverbatim]
    obtain ⟨hlow, hhigh⟩ := of_decide_eq_true hx
    exact ⟨hlow, hhigh, rest, hahead, rfl⟩
  fails {c} hverbatim hnone := by
    refine ⟨_, _, rejects_range_iff.mpr ⟨?_, rfl, rfl⟩⟩
    rw [approach_of_isVerbatim _ hverbatim]
    rw [takeWhile_eq_nil_iff_head?] at hnone
    intro x rest hahead
    exact of_decide_eq_false (hnone x (by rw [hahead]; rfl))

lemma takesOne_symbol (wanted : Char) : (symbol wanted).TakesOne fun x => x = wanted := by
  refine (takesOne_range wanted wanted).congr fun x => decide_eq_decide.mpr ?_
  constructor
  · rintro rfl
    exact ⟨Char.le_refl x, Char.le_refl x⟩
  · intro ⟨hlow, hhigh⟩
    exact Char.le_antisymm hhigh hlow

lemma orderly_of_takesOne {ps : List (Parser Char)} {kinds : List (Char → Bool)}
    (hall : List.Forall₂ TakesOne ps kinds) : ∀ p ∈ ps, p.parse.Orderly := by
  induction hall with
  | nil => exact List.forall_mem_nil _
  | cons hp _ ih => exact List.forall_mem_cons.mpr ⟨hp.orderly, ih⟩

/-- A choice takes one symbol of any of the kinds of its branches. -/
lemma takesOne_pick {ps : List (Parser Char)} {kinds : List (Char → Bool)}
    (hall : List.Forall₂ TakesOne ps kinds) :
    (pick ps).TakesOne fun x => kinds.any fun kind => kind x := by
  have horderly : ∀ p ∈ ps, p.parse.Orderly := orderly_of_takesOne hall
  refine ⟨orderly_pick horderly, fun {c x rest} hverbatim hahead hx => ?_,
    fun {c} hverbatim hnone => ?_⟩
  · -- the branches in front of the first one whose kind it is fail
    rw [accepts_pick_iff horderly]
    clear horderly
    induction hall with
    | nil => cases hx
    | @cons p kind ps kinds hp _ ih =>
      by_cases hkind : kind x = true
      · exact ⟨[], p, ps, rfl, List.forall_mem_nil _, hp.accepts hverbatim hahead hkind⟩
      · have hlater : (kinds.any fun kind => kind x) = true := by simpa [hkind] using hx
        obtain ⟨before, q, after, rfl, hbefore, hq⟩ := ih hlater
        have hfails : p.parse.Fails c := by
          refine hp.fails hverbatim ?_
          rw [hahead]
          exact List.takeWhile_cons_of_neg hkind
        exact ⟨p :: before, q, after, rfl, List.forall_mem_cons.mpr ⟨hfails, hbefore⟩, hq⟩
  · rw [fails_pick_iff horderly]
    clear horderly
    rw [takeWhile_eq_nil_iff_head?] at hnone
    induction hall with
    | nil => exact List.forall_mem_nil _
    | @cons p kind ps kinds hp _ ih =>
      simp only [List.any_cons, Bool.or_eq_false_iff] at hnone
      have hfails : p.parse.Fails c :=
        hp.fails hverbatim (takeWhile_eq_nil_iff_head?.mpr fun x hx => (hnone x hx).1)
      exact List.forall_mem_cons.mpr ⟨hfails, ih fun x hx => (hnone x hx).2⟩

end Kind

end Parlance.Parser
