import Parlance.Parser.Repetition
import Parlance.Proofs.Orderly

/-!
# Outcomes of repetitions

A repetition goes on while its parser succeeds and reads something. `Repeats` says this without a
limit. The limit that a repetition runs with is never reached, because every value but the last
takes at least one of the symbols ahead (`accepts_repeatAhead_iff`). For the same reason a
parser that gives a reply from everywhere can only be repeated so often
(`Repeats.exists_of_replies`).
-/

namespace Parlance.Parser

variable {α : Type} {p : Parser α} {c c' : Cursor} {as : List α}

/-- `Repeats p c as c'`: from `c` the parser `p` can be repeated for the values `as`, and `c'` is
where that ends. -/
inductive Repeats (p : Parser α) : Cursor → List α → Cursor → Prop
  /-- There is no further value. -/
  | stop {c : Cursor} : p.parse.Fails c → Repeats p c [] c
  /-- A value that takes up no text is the last one. -/
  | still {c c' : Cursor} {a : α} :
    p.parse.Accepts c a c' → c'.offset = c.offset → Repeats p c [a] c'
  /-- A value that takes up some text is followed by others. -/
  | more {c c₁ c' : Cursor} {a : α} {as : List α} :
    p.parse.Accepts c a c₁ → c₁.offset ≠ c.offset → Repeats p c₁ as c' →
    Repeats p c (a :: as) c'

/-- Reading something leaves fewer symbols ahead. -/
lemma length_ahead_lt_of_offset_ne {c₁ : Cursor} {t : List Char} (ht : t <+: c.ahead)
    (hc₁ : c₁ = c.past t) (hne : c₁.offset ≠ c.offset) : c₁.ahead.length < c.ahead.length := by
  obtain ⟨rest, hrest⟩ := ht
  cases t with
  | nil => exact absurd (by rw [hc₁, Cursor.past_nil]) hne
  | cons x t =>
    rw [hc₁, Cursor.ahead_past_of_eq hrest.symm, ← hrest]
    simp only [List.length_append, List.length_cons]
    omega

/-- Any limit beyond the number of symbols ahead is as good as none. -/
lemma Repeats.accepts_repeated (hp : p.parse.Orderly) (h : Repeats p c as c') {limit : ℕ}
    (hlimit : c.ahead.length < limit) : (repeated p limit).Accepts c as c' := by
  -- the induction is on the values; each but the last leaves fewer symbols ahead and a lower limit
  induction h generalizing limit with
  | @stop c hfails =>
    obtain ⟨limit, rfl⟩ := Nat.exists_eq_succ_of_ne_zero (Nat.ne_zero_of_lt hlimit)
    rw [repeated, Parse.accepts_get_bind_iff]
    have hnone := hp.accepts_none_tentatively_iff.mpr ⟨rfl, hfails⟩
    exact hnone.bind (Parse.accepts_pure_iff.mpr ⟨rfl, rfl⟩)
  | @still c c' a haccepts hoffset =>
    obtain ⟨limit, rfl⟩ := Nat.exists_eq_succ_of_ne_zero (Nat.ne_zero_of_lt hlimit)
    rw [repeated, Parse.accepts_get_bind_iff]
    apply (hp.accepts_some_tentatively_iff.mpr haccepts).bind
    dsimp only
    rw [Parse.accepts_get_bind_iff, if_pos hoffset]
    exact Parse.accepts_pure_iff.mpr ⟨rfl, rfl⟩
  | @more c c₁ c' a as haccepts hoffset _ ih =>
    obtain ⟨limit, rfl⟩ := Nat.exists_eq_succ_of_ne_zero (Nat.ne_zero_of_lt hlimit)
    obtain ⟨t, ht, hc₁⟩ := hp.exists_past_of_accepts haccepts
    have hlt : c₁.ahead.length < c.ahead.length := length_ahead_lt_of_offset_ne ht hc₁ hoffset
    rw [repeated, Parse.accepts_get_bind_iff]
    apply (hp.accepts_some_tentatively_iff.mpr haccepts).bind
    dsimp only
    rw [Parse.accepts_get_bind_iff, if_neg hoffset]
    exact (ih (by omega)).bind (Parse.accepts_pure_iff.mpr ⟨rfl, rfl⟩)

/-- With such a limit there are no other values than those that can be had. -/
lemma repeats_of_accepts_repeated (hp : p.parse.Orderly) {limit : ℕ}
    (hlimit : c.ahead.length < limit) (h : (repeated p limit).Accepts c as c') :
    Repeats p c as c' := by
  induction limit generalizing c as with
  | zero => exact absurd hlimit (Nat.not_lt_zero _)
  | succ limit ih =>
    rw [repeated, Parse.accepts_get_bind_iff] at h
    obtain ⟨_ | a, c₁, hfound, h⟩ := Parse.accepts_bind_iff.mp h
    · obtain ⟨rfl, hfails⟩ := hp.accepts_none_tentatively_iff.mp hfound
      obtain ⟨rfl, rfl⟩ := Parse.accepts_pure_iff.mp h
      exact .stop hfails
    · have haccepts := hp.accepts_some_tentatively_iff.mp hfound
      obtain ⟨t, ht, hc₁⟩ := hp.exists_past_of_accepts haccepts
      dsimp only at h
      rw [Parse.accepts_get_bind_iff] at h
      split at h
      · next hoffset =>
        obtain ⟨rfl, rfl⟩ := Parse.accepts_pure_iff.mp h
        exact .still haccepts hoffset
      · next hoffset =>
        have hlt := length_ahead_lt_of_offset_ne ht hc₁ hoffset
        obtain ⟨values, c₂, hrest, h⟩ := Parse.accepts_bind_iff.mp h
        obtain ⟨rfl, rfl⟩ := Parse.accepts_pure_iff.mp h
        exact .more haccepts hoffset (ih (by omega) hrest)

/-- A repetition gives all the values that can be had. -/
theorem Repeats.accepts_repeatAhead (hp : p.parse.Orderly) (h : Repeats p c as c') :
    (repeatAhead p).Accepts c as c' := by
  rw [repeatAhead, Parse.accepts_get_bind_iff]
  exact h.accepts_repeated hp (Nat.lt_succ_self _)

theorem Repeats.accepts_many (hp : p.parse.Orderly) (h : Repeats p c as c') :
    (many p).parse.Accepts c as c' :=
  h.accepts_repeatAhead hp

theorem accepts_repeatAhead_iff (hp : p.parse.Orderly) :
    (repeatAhead p).Accepts c as c' ↔ Repeats p c as c' := by
  refine ⟨fun h => ?_, fun h => h.accepts_repeatAhead hp⟩
  rw [repeatAhead, Parse.accepts_get_bind_iff] at h
  exact repeats_of_accepts_repeated hp (Nat.lt_succ_self _) h

theorem accepts_many_iff (hp : p.parse.Orderly) :
    (many p).parse.Accepts c as c' ↔ Repeats p c as c' :=
  accepts_repeatAhead_iff hp

/-- A sequence is one value and a repetition from where it ends. -/
theorem accepts_sequence_iff (hp : p.parse.Orderly) :
    (sequence p).parse.Accepts c as c' ↔
      ∃ a c₁ more, p.parse.Accepts c a c₁ ∧ Repeats p c₁ more c' ∧ as = a :: more := by
  show Parse.Accepts (p.parse >>= _) c as c' ↔ _
  rw [Parse.accepts_bind_iff]
  constructor
  · intro ⟨a, c₁, ha, h⟩
    obtain ⟨more, c₂, hmore, h⟩ := Parse.accepts_bind_iff.mp h
    obtain ⟨rfl, rfl⟩ := Parse.accepts_pure_iff.mp h
    exact ⟨a, c₁, more, ha, (accepts_repeatAhead_iff hp).mp hmore, rfl⟩
  · intro ⟨a, c₁, more, ha, hmore, heq⟩
    exact ⟨a, c₁, ha, ((accepts_repeatAhead_iff hp).mpr hmore).bind
      (Parse.accepts_pure_iff.mpr ⟨heq, rfl⟩)⟩

lemma not_rejects_repeated {limit : ℕ} {e : ParseError} :
    ¬ (repeated p limit).Rejects c e c' := by
  induction limit generalizing c with
  | zero => exact Parse.not_rejects_pure
  | succ limit ih =>
    rw [repeated, Parse.rejects_get_bind_iff, Parse.rejects_bind_iff]
    intro hout
    rcases hout with h | ⟨_ | value, c₁, -, h⟩
    · exact Parse.not_rejects_tentatively h
    · exact Parse.not_rejects_pure h
    · dsimp only at h
      rw [Parse.rejects_get_bind_iff] at h
      split at h
      · exact Parse.not_rejects_pure h
      · rcases Parse.rejects_bind_iff.mp h with h | ⟨values, c₂, -, h⟩
        · exact ih h
        · exact Parse.not_rejects_pure h

/-- A repetition never fails. -/
theorem not_rejects_many {e : ParseError} : ¬ (many p).parse.Rejects c e c' := by
  show ¬ Parse.Rejects (Parse.get >>= _) c e c'
  rw [Parse.rejects_get_bind_iff]
  exact not_rejects_repeated

/-- A sequence fails as its first value does. -/
theorem rejects_sequence_iff {e : ParseError} :
    (sequence p).parse.Rejects c e c' ↔ p.parse.Rejects c e c' := by
  show Parse.Rejects (p.parse >>= _) c e c' ↔ _
  refine Parse.rejects_bind_iff.trans (or_iff_left fun ⟨a, c₁, _, h⟩ => ?_)
  rcases Parse.rejects_bind_iff.mp h with h | ⟨more, c₂, -, h⟩
  · exact not_rejects_many h
  · exact Parse.not_rejects_pure h

/-! ## How repetitions end -/

/-- What is read without moving the cursor leaves it as it was. -/
lemma eq_of_offset_eq {c₁ : Cursor} {t : List Char} (hc₁ : c₁ = c.past t)
    (h : c₁.offset = c.offset) : c₁ = c := by
  have hbytes := length_le_byteLength t
  rw [hc₁, Cursor.offset_past] at h
  have ht : t = [] := List.eq_nil_of_length_eq_zero (by omega)
  rw [hc₁, ht, Cursor.past_nil]

/-- A parser that gives a reply wherever it may get to can be repeated until that ends. -/
theorem Repeats.exists_of_replies (hp : p.parse.Orderly)
    (hreplies : ∀ t, t <+: c.ahead → ∃ reply, p.parse (c.past t) = .ok reply) :
    ∃ as c', Repeats p c as c' := by
  -- the induction is on the number of symbols ahead
  induction hlength : c.ahead.length using Nat.strongRecOn generalizing c with
  | _ n ih =>
    obtain ⟨⟨result, c₁, k⟩, hreply⟩ := hreplies [] List.nil_prefix
    rw [Cursor.past_nil] at hreply
    cases result with
    | error e => exact ⟨[], c, .stop ⟨e, c₁, k, hreply⟩⟩
    | ok a =>
      have haccepts : p.parse.Accepts c a c₁ := ⟨k, hreply⟩
      by_cases hstill : c₁.offset = c.offset
      · exact ⟨[a], c₁, .still haccepts hstill⟩
      · obtain ⟨t, ht, rfl⟩ := hp.exists_past_of_accepts haccepts
        have hlt := length_ahead_lt_of_offset_ne ht rfl hstill
        have hlater := Cursor.forall_past_of_prefix (fun d => ∃ reply, p.parse d = .ok reply)
          hreplies ht
        obtain ⟨as, c', hrepeats⟩ := ih _ (hlength ▸ hlt) hlater rfl
        exact ⟨a :: as, c', .more haccepts hstill hrepeats⟩

/-- Every value but the last takes at least one of the symbols ahead. -/
lemma Repeats.length_le (hp : p.parse.Orderly) (h : Repeats p c as c') :
    as.length ≤ c.ahead.length + 1 := by
  induction h with
  | stop => exact Nat.zero_le _
  | still => exact Nat.le_add_left 1 _
  | more haccepts hmoves _ ih =>
    obtain ⟨t, ht, hc₁⟩ := hp.exists_past_of_accepts haccepts
    have hlt := length_ahead_lt_of_offset_ne ht hc₁ hmoves
    rw [List.length_cons]
    omega

/-- Where a repetition ends, there is no further value, or the last one can be had again without
end. -/
lemma Repeats.fails_or_accepts (hp : p.parse.Orderly) (h : Repeats p c as c') :
    p.parse.Fails c' ∨ ∃ a, as.getLast? = some a ∧ p.parse.Accepts c' a c' := by
  induction h with
  | stop hfails => exact Or.inl hfails
  | @still c c' a haccepts hstill =>
    obtain ⟨t, -, hc'⟩ := hp.exists_past_of_accepts haccepts
    obtain rfl := eq_of_offset_eq hc' hstill
    exact Or.inr ⟨a, rfl, haccepts⟩
  | more _ _ _ ih =>
    refine ih.imp_right fun ⟨b, hlast, haccepts⟩ => ⟨b, ?_, haccepts⟩
    rw [List.getLast?_cons, hlast]
    rfl

/-- Reading some text moves the cursor. -/
lemma offset_past_ne (c : Cursor) {t : List Char} (ht : t ≠ []) :
    (c.past t).offset ≠ c.offset := by
  have hpos : 0 < t.length := List.length_pos_iff.mpr ht
  have hbytes := length_le_byteLength t
  rw [Cursor.offset_past]
  omega

end Parlance.Parser
