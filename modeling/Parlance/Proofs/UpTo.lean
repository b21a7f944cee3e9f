import Parlance.Proofs.Congruence

/-!
# Answers up to what their errors say

Two parses may have the same outcome from every cursor and yet complain differently when they fail.
`Parse.UpTo E` holds of such parses whose errors are related by `E`. No parse looks at what an error
says, so this relation is contextual as soon as `E` is reflexive and does not see the tags of choices
(`Parse.UpTo.contextual`).
-/

namespace Parlance

open Parlance.Parser

variable {α β : Type} {E : ParseError → ParseError → Prop}

/-- Answers that are the same except that their errors are only related by `E`. -/
inductive AnswerUpTo (E : ParseError → ParseError → Prop) :
    Except Fault (Reply α) → Except Fault (Reply α) → Prop
  | fault (f : Fault) : AnswerUpTo E (.error f) (.error f)
  | accepted (a : α) (c : Cursor) (n : ℕ) : AnswerUpTo E (.ok ⟨.ok a, c, n⟩) (.ok ⟨.ok a, c, n⟩)
  | rejected {e e' : ParseError} (c : Cursor) (n : ℕ) :
    E e e' → AnswerUpTo E (.ok ⟨.error e, c, n⟩) (.ok ⟨.error e', c, n⟩)

lemma AnswerUpTo.refl (hE : ∀ e, E e e) (answer : Except Fault (Reply α)) :
    AnswerUpTo E answer answer := by
  rcases answer with f | ⟨e | a, c, n⟩
  · exact .fault f
  · exact .rejected c n (hE e)
  · exact .accepted a c n

/-- Parses that give the same answer from every cursor, up to their errors. -/
def Parse.UpTo (E : ParseError → ParseError → Prop) (α : Type) (p q : Parse α) : Prop :=
  ∀ c, AnswerUpTo E (p c) (q c)

namespace Parse.UpTo

variable {p q : Parse α} {c c' : Cursor}

/-! ## Contexts -/

lemma bind {f g : α → Parse β} (hpq : UpTo E α p q) (hfg : ∀ a, UpTo E β (f a) (g a)) :
    UpTo E β (p >>= f) (q >>= g) := by
  intro c
  rw [bind_apply, bind_apply]
  have hc := hpq c
  generalize p c = x, q c = y at hc ⊢
  cases hc with
  | fault f => exact .fault f
  | rejected c' n he => exact .rejected c' n he
  | accepted a c' n =>
    have hc' := hfg a c'
    dsimp only
    generalize f a c' = x, g a c' = y at hc' ⊢
    cases hc' with
    | fault f => exact .fault f
    | rejected c'' m he => exact .rejected c'' (n + m) he
    | accepted b c'' m => exact .accepted b c'' (n + m)

lemma consult {f g : Cursor → Parse α} (hfg : ∀ c d, c = d → UpTo E α (f c) (g d)) :
    UpTo E α (get >>= f) (get >>= g) := by
  intro c
  rw [get_bind_apply, get_bind_apply]
  exact hfg c c rfl c

/-- The place to go back to is the same, whatever the error. -/
lemma speculate (hpq : UpTo E α p q) : UpTo E α p.speculate q.speculate := by
  intro c
  unfold Parse.speculate
  have hc := hpq c.commit
  generalize p c.commit = x, q c.commit = y at hc ⊢
  cases hc with
  | fault f => exact .fault f
  | accepted a c' n =>
    dsimp only
    cases c'.finish with
    | error f => exact .fault f
    | ok c'' => exact .accepted a c'' n
  | rejected c' n he =>
    dsimp only
    cases c'.rollback with
    | error f => exact .fault f
    | ok c'' => exact .rejected c'' n he

lemma tentatively (hpq : UpTo E α p q) : UpTo E _ p.tentatively q.tentatively := by
  intro c
  unfold Parse.tentatively
  have hc := hpq.speculate c
  generalize p.speculate c = x, q.speculate c = y at hc ⊢
  cases hc with
  | fault f => exact .fault f
  | accepted a c' n => exact .accepted (some a) c' n
  | rejected c' n _ => exact .accepted none c' n

lemma verbatim (hpq : UpTo E α p q) : UpTo E α p.verbatim q.verbatim := by
  intro c
  unfold Parse.verbatim
  have hc := hpq c.enterVerbatim
  generalize p c.enterVerbatim = x, q c.enterVerbatim = y at hc ⊢
  cases hc with
  | fault f => exact .fault f
  | accepted a c' n => exact .accepted a c'.exitVerbatim n
  | rejected c' n he => exact .rejected c'.exitVerbatim n he

lemma counted (hpq : UpTo E α p q) : UpTo E α p.counted q.counted := by
  intro c
  unfold Parse.counted
  have hc := hpq c
  generalize p c = x, q c = y at hc ⊢
  cases hc with
  | fault f => exact .fault f
  | accepted a c' n => exact .accepted a c' (n + 1)
  | rejected c' n he => exact .rejected c' (n + 1) he

/-- No parse looks at what an error says. -/
theorem contextual (hE : ∀ e, E e e)
    (htags : ∀ {α} {ps qs : List (Parser α)} (offset : ℕ), ps.length = qs.length →
      E (.unexpectedEnd offset (pickTag ps)) (.unexpectedEnd offset (pickTag qs))) :
    Contextual (UpTo E) where
  ahead_eq hcd := congrArg Cursor.ahead hcd
  pure a c := .refl hE _
  bind := bind
  consult := consult
  measured hpq := consult fun _ _ hbefore => bind hpq fun _ => consult fun _ _ hafter => by
    rw [hbefore, hafter]
    exact fun c => .refl hE _
  advance c := .refl hE _
  advanceBytes n c := .refl hE _
  skipBlank c := .refl hE _
  fail k c := .refl hE _
  tentatively := tentatively
  verbatim := verbatim
  counted := counted
  refl p c := .refl hE _
  speculate := speculate
  ended hlength c := .rejected c 0 (htags c.offset hlength)

/-! ## Outcomes -/

lemma eq_error_iff (hpq : UpTo E α p q) {f : Fault} : p c = .error f ↔ q c = .error f := by
  have hc := hpq c
  generalize p c = x, q c = y at hc ⊢
  cases hc <;> simp

lemma accepts_iff (hpq : UpTo E α p q) {a : α} : p.Accepts c a c' ↔ q.Accepts c a c' := by
  have hc := hpq c
  unfold Accepts
  generalize p c = x, q c = y at hc ⊢
  cases hc <;> simp

lemma exists_rejects (hpq : UpTo E α p q) {e : ParseError} (h : p.Rejects c e c') :
    ∃ e', q.Rejects c e' c' ∧ E e e' := by
  obtain ⟨n, hn⟩ := h
  have hc := hpq c
  rw [hn] at hc
  generalize hq : q c = y at hc
  cases hc with
  | @rejected _ e' _ _ he => exact ⟨e', ⟨n, hq⟩, he⟩

lemma exists_rejects_left (hpq : UpTo E α p q) {e' : ParseError} (h : q.Rejects c e' c') :
    ∃ e, p.Rejects c e c' ∧ E e e' := by
  obtain ⟨n, hn⟩ := h
  have hc := hpq c
  rw [hn] at hc
  generalize hp : p c = x at hc
  cases hc with
  | @rejected e _ _ _ he => exact ⟨e, ⟨n, hp⟩, he⟩

end Parse.UpTo

end Parlance
