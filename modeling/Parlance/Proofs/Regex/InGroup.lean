import Parlance.Regex.Flags
import Mathlib.Tactic.Common
import Mathlib.Tactic.Lemma

/-!
# Reading inside a group

What is read of an expression is the same when the expression stands in a group: the closing
parenthesis behind it is not looked at before the end of the expression. Only a comment that goes on
to the end of the text can swallow it.

This is shown reader by reader. Each is run on two texts, one of which may have the parenthesis
behind it (`InGroup`), and what it makes of the first it makes of the second (`Mirrors`).
-/

namespace Parlance.Regex

variable {α β γ δ : Type} {text inside rest : List Char} {x y : Char} {n : ℕ}

/-! ## Texts -/

/-- What stands ahead inside a group where `text` would stand ahead without it: the closing
parenthesis follows, unless a comment has swallowed it. -/
inductive InGroup (text : List Char) : (inside : List Char) → Prop
  | closed : InGroup text (text ++ [')'])
  | swallowed : InGroup text text

namespace InGroup

lemma cons (h : InGroup text inside) (x : Char) : InGroup (x :: text) (x :: inside) := by
  cases h with
  | closed => exact .closed
  | swallowed => exact .swallowed

lemma length_le (h : InGroup text inside) : text.length ≤ inside.length := by
  cases h with
  | closed => simp
  | swallowed => exact Nat.le_refl _

/-- A symbol that stands ahead does so in the group, too. -/
lemma uncons (h : InGroup text inside) (htext : text = x :: rest) :
    ∃ rest', inside = x :: rest' ∧ InGroup rest rest' := by
  subst htext
  cases h with
  | closed => exact ⟨rest ++ [')'], rfl, .closed⟩
  | swallowed => exact ⟨rest, rfl, .swallowed⟩

/-- At the end nothing is ahead in the group but the parenthesis. -/
lemma nil (h : InGroup [] inside) : inside = [] ∨ inside = [')'] := by
  cases h with
  | closed => exact .inr rfl
  | swallowed => exact .inl rfl

/-- A symbol other than the parenthesis is next on both sides or on neither. -/
lemma begins (h : InGroup text inside) (hx : x ≠ ')') :
    (∃ rest rest', text = x :: rest ∧ inside = x :: rest' ∧ InGroup rest rest') ∨
      (∀ rest, text ≠ x :: rest) ∧ ∀ rest', inside ≠ x :: rest' := by
  cases text with
  | nil =>
    refine .inr ⟨fun _ hnil => (nomatch hnil), fun rest' hinside => ?_⟩
    rcases h.nil with rfl | rfl
    · cases hinside
    · exact hx (List.cons.inj hinside).1.symm
  | cons y text =>
    obtain ⟨rest', rfl, hrest⟩ := h.uncons rfl
    by_cases hy : y = x
    · subst hy
      exact .inl ⟨text, rest', rfl, rfl, hrest⟩
    · exact .inr ⟨fun _ heq => hy (List.cons.inj heq).1, fun _ heq => hy (List.cons.inj heq).1⟩

/-- The same for two symbols in a row. -/
lemma begins_both (h : InGroup text inside) (hx : x ≠ ')') (hy : y ≠ ')') :
    (∃ rest rest', text = x :: y :: rest ∧ inside = x :: y :: rest' ∧ InGroup rest rest') ∨
      (∀ rest, text ≠ x :: y :: rest) ∧ ∀ rest', inside ≠ x :: y :: rest' := by
  rcases h.begins hx with ⟨rest, rest', rfl, rfl, hrest⟩ | ⟨hno, hno'⟩
  · rcases hrest.begins hy with ⟨rest, rest', rfl, rfl, hlater⟩ | ⟨hno, hno'⟩
    · exact .inl ⟨rest, rest', rfl, rfl, hlater⟩
    · exact .inr ⟨fun rest heq => hno rest (List.cons.inj heq).2,
        fun rest' heq => hno' rest' (List.cons.inj heq).2⟩
  · exact .inr ⟨fun rest => hno (y :: rest), fun rest' => hno' (y :: rest')⟩

/-- At the end none of the symbols is ahead that the parenthesis is not one of. -/
lemma not_of_nil {p : Char → Bool} (h : InGroup [] inside) (hp : p ')' = false) :
    ∀ c rest, inside = c :: rest → p c = false := by
  rintro c rest rfl
  rcases h.nil with hnil | hclosed
  · cases hnil
  · rwa [(List.cons.inj hclosed).1]

/-- The parenthesis ends a run of symbols that it is not one of. -/
lemma dropWhile {p : Char → Bool} (hp : p ')' = false) (h : InGroup text inside) :
    InGroup (text.dropWhile p) (inside.dropWhile p) := by
  cases h with
  | swallowed => exact .swallowed
  | closed =>
    rw [List.dropWhile_append]
    split
    · next hnil =>
      rw [List.isEmpty_iff.mp hnil, List.dropWhile_cons_of_neg (by simp [hp])]
      exact .closed
    · exact .closed

/-- A run that ends in the text ends at the same place in the group. -/
lemma takeWhile_dropWhile {p : Char → Bool} (h : InGroup text inside)
    (hends : text.dropWhile p = x :: rest) :
    inside.takeWhile p = text.takeWhile p ∧
      ∃ rest', inside.dropWhile p = x :: rest' ∧ InGroup rest rest' := by
  cases h with
  | swallowed => exact ⟨rfl, rest, hends, .swallowed⟩
  | closed =>
    rw [List.takeWhile_append, List.dropWhile_append, hends]
    refine ⟨if_neg fun hall => ?_, rest ++ [')'], rfl, .closed⟩
    have hlength := congrArg List.length (List.takeWhile_append_dropWhile (p := p) (l := text))
    rw [List.length_append, hends, hall, List.length_cons] at hlength
    omega

/-- A run of symbols that the parenthesis is one of has no end in the group if it has none in the
text. -/
lemma dropWhile_eq_nil {p : Char → Bool} (h : InGroup text inside) (hp : p ')' = true)
    (hends : text.dropWhile p = []) : inside.dropWhile p = [] := by
  cases h with
  | swallowed => exact hends
  | closed => rw [List.dropWhile_append, hends, List.isEmpty_nil, if_pos rfl,
      List.dropWhile_cons_of_pos hp, List.dropWhile_nil]

end InGroup

lemma inGroup_skipSpaceAndComments (commented : Bool) (text : List Char) :
    InGroup (skipSpaceAndComments commented text)
      (skipSpaceAndComments commented (text ++ [')'])) := by
  induction text generalizing commented with
  | nil =>
    cases commented with
    | true => exact .swallowed
    | false => exact .closed
  | cons x text ih =>
    cases commented with
    | true => exact ih _
    | false =>
      simp only [List.cons_append, skipSpaceAndComments]
      split
      · exact ih false
      · split
        · exact ih true
        · exact .closed

lemma InGroup.skip (flags : Flags) (h : InGroup text inside) :
    InGroup (flags.skip text) (flags.skip inside) := by
  cases h with
  | swallowed => exact .swallowed
  | closed =>
    unfold Flags.skip
    split
    · exact inGroup_skipSpaceAndComments false text
    · exact .closed

lemma length_skipSpaceAndComments_le (commented : Bool) (text : List Char) :
    (skipSpaceAndComments commented text).length ≤ text.length := by
  induction text generalizing commented with
  | nil => cases commented <;> exact Nat.le_refl _
  | cons x text ih =>
    have hlater (commented : Bool) :
        (skipSpaceAndComments commented text).length ≤ (x :: text).length :=
      Nat.le_succ_of_le (ih commented)
    cases commented with
    | true => exact hlater _
    | false =>
      simp only [skipSpaceAndComments]
      split
      · exact hlater false
      · split
        · exact hlater true
        · exact Nat.le_refl _

lemma Flags.length_skip_le (flags : Flags) (text : List Char) :
    (flags.skip text).length ≤ text.length := by
  unfold Flags.skip
  split
  · exact length_skipSpaceAndComments_le false text
  · exact Nat.le_refl _

/-- When what has no meaning is passed over, either the text is at its end or the same symbol is
next on both sides. -/
lemma InGroup.cases_skip (flags : Flags) (h : InGroup text inside) :
    flags.skip text = [] ∨ ∃ x rest rest', flags.skip text = x :: rest ∧
      flags.skip inside = x :: rest' ∧ rest.length < text.length ∧ InGroup rest rest' := by
  have hlength := flags.length_skip_le text
  cases htext : flags.skip text with
  | nil => exact .inl rfl
  | cons x rest =>
    obtain ⟨rest', hinside, hrest⟩ := (h.skip flags).uncons htext
    rw [htext, List.length_cons] at hlength
    exact .inr ⟨x, rest, rest', rfl, hinside, hlength, hrest⟩

/-! ## Results -/

/-- Whenever the first result is good, so is the second, and the two are related. -/
def Mirrors (rel : α → β → Prop) (r : Except SyntaxError α) (r' : Except SyntaxError β) : Prop :=
  ∀ a, r = .ok a → ∃ a', r' = .ok a' ∧ rel a a'

namespace Mirrors

variable {rel : α → β → Prop} {rel' : γ → δ → Prop}

lemma error (e : SyntaxError) (r' : Except SyntaxError β) : Mirrors rel (.error e) r' := by
  intro a h
  cases h

lemma ok {a : α} {a' : β} (h : rel a a') : Mirrors rel (.ok a) (.ok a') := by
  rintro _ ⟨⟩
  exact ⟨a', rfl, h⟩

lemma bind {r : Except SyntaxError α} {r' : Except SyntaxError β} (h : Mirrors rel r r')
    {f : α → Except SyntaxError γ} {f' : β → Except SyntaxError δ}
    (hf : ∀ a a', rel a a' → Mirrors rel' (f a) (f' a')) : Mirrors rel' (r >>= f) (r' >>= f') := by
  cases r with
  | error e => exact error e _
  | ok a =>
    obtain ⟨a', rfl, ha⟩ := h a rfl
    exact hf a a' ha

/-- What does not depend on the text is the same on both sides. -/
lemma bind_left (r : Except SyntaxError α) {f : α → Except SyntaxError γ}
    {f' : α → Except SyntaxError δ} (hf : ∀ a, Mirrors rel' (f a) (f' a)) :
    Mirrors rel' (r >>= f) (r >>= f') := by
  cases r with
  | error e => exact error e _
  | ok a => exact hf a

lemma mono {rel₂ : α → β → Prop} {r : Except SyntaxError α} {r' : Except SyntaxError β}
    (h : Mirrors rel r r') (hrel : ∀ a a', rel a a' → rel₂ a a') : Mirrors rel₂ r r' := by
  intro a ha
  obtain ⟨a', ha', h⟩ := h a ha
  exact ⟨a', ha', hrel a a' h⟩

end Mirrors

/-- The same has been read, at most `n` symbols are left ahead, and inside the group the same. -/
inductive Agrees (n : ℕ) : (result result' : α × List Char) → Prop
  | intro {a : α} {rest rest' : List Char} : rest.length ≤ n → InGroup rest rest' →
    Agrees n (a, rest) (a, rest')

lemma Agrees.mono {m : ℕ} {result result' : α × List Char} (h : Agrees n result result')
    (hn : n ≤ m) : Agrees m result result' := by
  obtain ⟨hlength, hrest⟩ := h
  exact .intro (Nat.le_trans hlength hn) hrest

/-- Symbols of one kind that are read with whatever has no meaning between them end in front of the
parenthesis, if that is not of the kind. -/
lemma agrees_of_run (flags : Flags) {p : Char → Bool} (hp : p ')' = false)
    {read : ℕ → List Char → List Char × List Char}
    (hzero : ∀ text, read 0 text = ([], text)) (hnil : ∀ fuel, read (fuel + 1) [] = ([], []))
    (hcons : ∀ fuel c rest, read (fuel + 1) (c :: rest)
      = if p c then
          let (symbols, rest) := read fuel (flags.skip rest)
          (c :: symbols, rest)
        else ([], c :: rest))
    {fuel fuel' : ℕ} (h : InGroup text inside) (hfuel : text.length ≤ fuel)
    (hfuel' : fuel ≤ fuel') : Agrees text.length (read fuel text) (read fuel' inside) := by
  have hstop (fuel : ℕ) {text : List Char} (hno : ∀ c rest, text = c :: rest → p c = false) :
      read fuel text = ([], text) := by
    cases fuel with
    | zero => exact hzero text
    | succ fuel =>
      cases text with
      | nil => exact hnil fuel
      | cons c rest => simp only [hcons, hno c rest rfl, Bool.false_eq_true, if_false]
  induction fuel generalizing fuel' text inside with
  | zero =>
    obtain rfl := List.eq_nil_of_length_eq_zero (Nat.le_zero.mp hfuel)
    rw [hzero, hstop fuel' (h.not_of_nil hp)]
    exact .intro (Nat.le_refl _) h
  | succ fuel ih =>
    obtain ⟨fuel', rfl⟩ : ∃ k, fuel' = k + 1 := Nat.exists_eq_succ_of_ne_zero (by omega)
    cases text with
    | nil =>
      rw [hnil, hstop _ (h.not_of_nil hp)]
      exact .intro (Nat.le_refl _) h
    | cons x rest =>
      obtain ⟨rest', rfl, hrest⟩ := h.uncons rfl
      rw [hcons, hcons]
      split
      · have hskip := flags.length_skip_le rest
        have hlater := ih (hrest.skip flags) (Nat.le_trans hskip (Nat.le_of_succ_le_succ hfuel))
          (Nat.le_of_succ_le_succ hfuel')
        generalize read fuel (flags.skip rest) = found,
          read fuel' (flags.skip rest') = found' at hlater
        obtain ⟨hleft, hin⟩ := hlater
        exact .intro (Nat.le_succ_of_le (Nat.le_trans hleft hskip)) hin
      · exact .intro (Nat.le_refl _) h

/-- The same for two things that have been read. -/
inductive AgreesBoth (n : ℕ) : (result result' : α × β × List Char) → Prop
  | intro {a : α} {b : β} {rest rest' : List Char} : rest.length ≤ n → InGroup rest rest' →
    AgreesBoth n (a, b, rest) (a, b, rest')

namespace Mirrors

variable {r r' : Except SyntaxError (α × List Char)} {rel : β → γ → Prop}

lemma done {a : α} {rest' : List Char} (hlength : rest.length ≤ n) (h : InGroup rest rest') :
    Mirrors (Agrees n) (.ok (a, rest)) (.ok (a, rest')) :=
  .ok (.intro hlength h)

/-- More may have been ahead. -/
lemma mono_agrees {m : ℕ} (h : Mirrors (Agrees n) r r') (hn : n ≤ m) : Mirrors (Agrees m) r r' :=
  h.mono fun _ _ hagrees => hagrees.mono hn

/-- One reader after another. -/
lemma andThen (h : Mirrors (Agrees n) r r') {f : α × List Char → Except SyntaxError β}
    {f' : α × List Char → Except SyntaxError γ}
    (hf : ∀ a rest rest', rest.length ≤ n → InGroup rest rest' →
      Mirrors rel (f (a, rest)) (f' (a, rest'))) : Mirrors rel (r >>= f) (r' >>= f') := by
  refine h.bind ?_
  rintro _ _ ⟨hlength, hrest⟩
  exact hf _ _ _ hlength hrest

end Mirrors

end Parlance.Regex
