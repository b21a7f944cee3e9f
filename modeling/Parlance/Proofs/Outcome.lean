import Parlance.Parser
import Parlance.Proofs.Cursor

/-!
# Outcomes of a parse

A parse that gives a reply accepts the text with a value or rejects it with an error, and leaves a
cursor in both cases. `Accepts` and `Rejects` say so without the count of attempts, on which no
outcome depends. The lemmas take a sequence of parses apart into the outcomes of its steps.
-/

namespace Parlance

deriving instance DecidableEq for Reply

lemma exists_of_map_eq_ok {ε α β : Type} {x : Except ε α} {f : α → β} {b : β}
    (h : x.map f = .ok b) : ∃ a, x = .ok a ∧ f a = b := by
  cases x with
  | error e => cases h
  | ok a => exact ⟨a, rfl, Except.ok.inj h⟩

lemma exists_eq_ok_of_isOk {ε α : Type} {x : Except ε α} (h : x.isOk = true) :
    ∃ a, x = .ok a := by
  cases x with
  | error e => cases h
  | ok a => exact ⟨a, rfl⟩

end Parlance

namespace Parlance.Parse

variable {α β : Type}

/-- `p`, run from `c`, reads the value `a` and leaves the cursor `c'`. -/
def Accepts (p : Parse α) (c : Cursor) (a : α) (c' : Cursor) : Prop :=
  ∃ n, p c = .ok ⟨.ok a, c', n⟩

/-- `p`, run from `c`, fails with the error `e` and leaves the cursor `c'`. -/
def Rejects (p : Parse α) (c : Cursor) (e : ParseError) (c' : Cursor) : Prop :=
  ∃ n, p c = .ok ⟨.error e, c', n⟩

/-- `p`, run from `c`, fails. -/
def Fails (p : Parse α) (c : Cursor) : Prop := ∃ e c', p.Rejects c e c'

/-- Whether `p`, run from `c`, reads a value. -/
def succeeds (p : Parse α) (c : Cursor) : Bool :=
  ((p c).toOption.bind fun reply => reply.result.toOption).isSome

lemma succeeds_iff {p : Parse α} {c : Cursor} :
    p.succeeds c = true ↔ ∃ a c', p.Accepts c a c' := by
  unfold succeeds Accepts
  rcases p c with fault | ⟨e | a, c', n⟩ <;> simp [Except.toOption]

/-! ## One outcome at most -/

lemma Accepts.unique {p : Parse α} {c c₁ c₂ : Cursor} {a b : α} (h₁ : p.Accepts c a c₁)
    (h₂ : p.Accepts c b c₂) : a = b ∧ c₁ = c₂ := by
  obtain ⟨n, hn⟩ := h₁
  obtain ⟨m, hm⟩ := h₂
  rw [hn] at hm
  simp only [Except.ok.injEq, Reply.mk.injEq] at hm
  exact ⟨hm.1, hm.2.1⟩

lemma Accepts.not_fails {p : Parse α} {c c' : Cursor} {a : α} (h : p.Accepts c a c') :
    ¬ p.Fails c := by
  intro ⟨e, c'', m, hm⟩
  obtain ⟨n, hn⟩ := h
  rw [hn] at hm
  simp at hm

lemma Rejects.unique {p : Parse α} {c c₁ c₂ : Cursor} {e f : ParseError} (h₁ : p.Rejects c e c₁)
    (h₂ : p.Rejects c f c₂) : e = f ∧ c₁ = c₂ := by
  obtain ⟨n, hn⟩ := h₁
  obtain ⟨m, hm⟩ := h₂
  rw [hn] at hm
  simp only [Except.ok.injEq, Reply.mk.injEq, Except.error.injEq] at hm
  exact ⟨hm.1, hm.2.1⟩

lemma Rejects.fails {p : Parse α} {c c' : Cursor} {e : ParseError} (h : p.Rejects c e c') :
    p.Fails c := ⟨e, c', h⟩

/-- A reply without a value is an error. -/
lemma fails_of_reply {p : Parse α} {c : Cursor} (hreply : ∃ reply, p c = .ok reply)
    (hnot : ∀ a c', ¬ p.Accepts c a c') : p.Fails c := by
  obtain ⟨⟨e | a, c', n⟩, hreply⟩ := hreply
  · exact ⟨e, c', n, hreply⟩
  · exact absurd ⟨n, hreply⟩ (hnot a c')

/-! ## Sequencing -/

@[simp] lemma accepts_pure_iff {a b : α} {c c' : Cursor} :
    (pure a : Parse α).Accepts c b c' ↔ b = a ∧ c' = c := by
  constructor
  · intro ⟨n, hn⟩
    rw [pure_apply] at hn
    simp only [Except.ok.injEq, Reply.mk.injEq] at hn
    exact ⟨hn.1.symm, hn.2.1.symm⟩
  · intro hout
    rcases hout with ⟨rfl, rfl⟩
    exact ⟨0, rfl⟩

@[simp] lemma not_rejects_pure {a : α} {c c' : Cursor} {e : ParseError} :
    ¬ (pure a : Parse α).Rejects c e c' := by
  intro ⟨n, hn⟩
  rw [pure_apply] at hn
  simp at hn

lemma accepts_bind_iff {p : Parse α} {f : α → Parse β} {c c' : Cursor} {b : β} :
    (p >>= f).Accepts c b c' ↔ ∃ a c₁, p.Accepts c a c₁ ∧ (f a).Accepts c₁ b c' := by
  constructor
  · intro ⟨n, hn⟩
    rw [bind_apply] at hn
    -- the whole has a value only if the first step has one
    rcases hp : p c with fault | ⟨e | a, c₁, n₁⟩
    · simp [hp] at hn
    · simp [hp] at hn
    · rcases hf : f a c₁ with fault | ⟨r, c₂, n₂⟩
      · simp [hp, hf] at hn
      · simp only [hp, hf, Except.ok.injEq, Reply.mk.injEq] at hn
        obtain ⟨rfl, rfl, -⟩ := hn
        exact ⟨a, c₁, ⟨n₁, hp⟩, n₂, hf⟩
  · intro ⟨a, c₁, ⟨n₁, hp⟩, n₂, hf⟩
    exact ⟨n₁ + n₂, by rw [bind_apply, hp]; simp only [hf]⟩

lemma rejects_bind_iff {p : Parse α} {f : α → Parse β} {c c' : Cursor} {e : ParseError} :
    (p >>= f).Rejects c e c'
      ↔ p.Rejects c e c' ∨ ∃ a c₁, p.Accepts c a c₁ ∧ (f a).Rejects c₁ e c' := by
  constructor
  · intro ⟨n, hn⟩
    rw [bind_apply] at hn
    -- the error comes from the first step, or from the second behind a value of the first
    rcases hp : p c with fault | ⟨e₁ | a, c₁, n₁⟩
    · simp [hp] at hn
    · simp only [hp, Except.ok.injEq, Reply.mk.injEq, Except.error.injEq] at hn
      obtain ⟨rfl, rfl, -⟩ := hn
      exact Or.inl ⟨n₁, hp⟩
    · rcases hf : f a c₁ with fault | ⟨r, c₂, n₂⟩
      · simp [hp, hf] at hn
      · simp only [hp, hf, Except.ok.injEq, Reply.mk.injEq] at hn
        obtain ⟨rfl, rfl, -⟩ := hn
        exact Or.inr ⟨a, c₁, ⟨n₁, hp⟩, n₂, hf⟩
  · intro hout
    rcases hout with ⟨n₁, hp⟩ | ⟨a, c₁, ⟨n₁, hp⟩, n₂, hf⟩
    · exact ⟨n₁, by rw [bind_apply, hp]⟩
    · exact ⟨n₁ + n₂, by rw [bind_apply, hp]; simp only [hf]⟩

lemma Accepts.bind {p : Parse α} {f : α → Parse β} {c c₁ c' : Cursor} {a : α} {b : β}
    (hp : p.Accepts c a c₁) (hf : (f a).Accepts c₁ b c') : (p >>= f).Accepts c b c' :=
  accepts_bind_iff.mpr ⟨a, c₁, hp, hf⟩

lemma Accepts.bind_rejects {p : Parse α} {f : α → Parse β} {c c₁ c' : Cursor} {a : α}
    {e : ParseError} (hp : p.Accepts c a c₁) (hf : (f a).Rejects c₁ e c') :
    (p >>= f).Rejects c e c' :=
  rejects_bind_iff.mpr (Or.inr ⟨a, c₁, hp, hf⟩)

lemma Rejects.bind {p : Parse α} {c c' : Cursor} {e : ParseError} (hp : p.Rejects c e c')
    (f : α → Parse β) : (p >>= f).Rejects c e c' :=
  rejects_bind_iff.mpr (Or.inl hp)

lemma Accepts.bind_fails {p : Parse α} {f : α → Parse β} {c c₁ : Cursor} {a : α}
    (hp : p.Accepts c a c₁) (hf : (f a).Fails c₁) : (p >>= f).Fails c := by
  obtain ⟨e, c', h⟩ := hf
  exact ⟨e, c', hp.bind_rejects h⟩

lemma Fails.bind {p : Parse α} {c : Cursor} (hp : p.Fails c) (f : α → Parse β) :
    (p >>= f).Fails c := by
  obtain ⟨e, c', h⟩ := hp
  exact ⟨e, c', h.bind f⟩

lemma fails_bind_iff {p : Parse α} {f : α → Parse β} {c : Cursor} :
    (p >>= f).Fails c ↔ p.Fails c ∨ ∃ a c₁, p.Accepts c a c₁ ∧ (f a).Fails c₁ := by
  constructor
  · intro ⟨e, c', h⟩
    rcases rejects_bind_iff.mp h with h | ⟨a, c₁, ha, h⟩
    · exact Or.inl h.fails
    · exact Or.inr ⟨a, c₁, ha, h.fails⟩
  · rintro (h | ⟨a, c₁, ha, h⟩)
    · exact h.bind f
    · exact ha.bind_fails h

/-- Behind a step that is known to succeed, the rest decides. -/
lemma Accepts.bind_accepts_iff {p : Parse α} {f : α → Parse β} {c c₁ c' : Cursor} {a : α} {b : β}
    (hp : p.Accepts c a c₁) : (p >>= f).Accepts c b c' ↔ (f a).Accepts c₁ b c' := by
  refine ⟨fun h => ?_, hp.bind⟩
  obtain ⟨a', c₂, hp', hf⟩ := accepts_bind_iff.mp h
  obtain ⟨rfl, rfl⟩ := hp.unique hp'
  exact hf

lemma Accepts.bind_fails_iff {p : Parse α} {f : α → Parse β} {c c₁ : Cursor} {a : α}
    (hp : p.Accepts c a c₁) : (p >>= f).Fails c ↔ (f a).Fails c₁ := by
  refine ⟨fun h => ?_, hp.bind_fails⟩
  rcases fails_bind_iff.mp h with h | ⟨a', c₂, hp', hf⟩
  · exact absurd h hp.not_fails
  · obtain ⟨rfl, rfl⟩ := hp.unique hp'
    exact hf

lemma Accepts.bind_rejects_iff {p : Parse α} {f : α → Parse β} {c c₁ c' : Cursor} {a : α}
    {e : ParseError} (hp : p.Accepts c a c₁) :
    (p >>= f).Rejects c e c' ↔ (f a).Rejects c₁ e c' := by
  refine ⟨fun h => ?_, hp.bind_rejects⟩
  rcases rejects_bind_iff.mp h with h | ⟨a', c₂, hp', hf⟩
  · exact absurd h.fails hp.not_fails
  · obtain ⟨rfl, rfl⟩ := hp.unique hp'
    exact hf

/-! ## Steps -/

lemma accepts_modify (f : Cursor → Cursor) (c : Cursor) : (modify f).Accepts c () (f c) :=
  ⟨0, rfl⟩

lemma accepts_advance (c : Cursor) : advance.Accepts c c.advance.1 c.advance.2 := ⟨0, rfl⟩

lemma rejects_fail (error : Cursor → ParseError) (c : Cursor) :
    (fail error : Parse α).Rejects c (error c) c := ⟨0, rfl⟩

lemma rejects_fail_iff {error : Cursor → ParseError} {c c' : Cursor} {e : ParseError} :
    (fail error : Parse α).Rejects c e c' ↔ e = error c ∧ c' = c := by
  refine ⟨fun h => h.unique (rejects_fail error c), fun ⟨he, hc'⟩ => ?_⟩
  rw [he, hc']
  exact rejects_fail error c

lemma fails_fail (error : Cursor → ParseError) (c : Cursor) : (fail error : Parse α).Fails c :=
  (rejects_fail error c).fails

@[simp] lemma not_accepts_fail {error : Cursor → ParseError} {c c' : Cursor} {a : α} :
    ¬ (fail error : Parse α).Accepts c a c' := fun h => h.not_fails (fails_fail error c)

/-- Looking at the cursor moves nothing and counts nothing. -/
lemma get_bind_apply (f : Cursor → Parse β) (c : Cursor) : (get >>= f) c = f c c := by
  rw [bind_apply]
  unfold get
  dsimp only
  rcases f c c with fault | ⟨r, c', n⟩
  · rfl
  · simp

lemma accepts_get_bind_iff {f : Cursor → Parse β} {c c' : Cursor} {b : β} :
    (get >>= f).Accepts c b c' ↔ (f c).Accepts c b c' := by
  unfold Accepts
  rw [get_bind_apply]

lemma rejects_get_bind_iff {f : Cursor → Parse β} {c c' : Cursor} {e : ParseError} :
    (get >>= f).Rejects c e c' ↔ (f c).Rejects c e c' := by
  unfold Rejects
  rw [get_bind_apply]

end Parlance.Parse

namespace Parlance.Parser

variable {α β : Type} {p : Parser α} {f : α → β} {c c' : Cursor}

/-- A conversion changes the value and nothing else. -/
lemma parse_convert (p : Parser α) (f : α → β) (c : Cursor) :
    (p.convert f).parse c
      = (p.parse c).map fun reply => { reply with result := reply.result.map f } := by
  show (p.attempt >>= fun a => pure (f a)) (p.approach c) = (p.attempt (p.approach c)).map _
  rw [Parse.bind_apply]
  rcases p.attempt (p.approach c) with fault | ⟨e | a, c', n⟩ <;> rfl

lemma accepts_convert_iff {b : β} :
    (p.convert f).parse.Accepts c b c' ↔ ∃ a, p.parse.Accepts c a c' ∧ f a = b := by
  show Parse.Accepts (p.attempt >>= _) (p.approach c) b c' ↔ _
  rw [Parse.accepts_bind_iff]
  constructor
  · intro ⟨a, c₁, ha, hb⟩
    obtain ⟨rfl, rfl⟩ := Parse.accepts_pure_iff.mp hb
    exact ⟨a, ha, rfl⟩
  · intro ⟨a, ha, hb⟩
    exact ⟨a, c', ha, Parse.accepts_pure_iff.mpr ⟨hb.symm, rfl⟩⟩

lemma rejects_convert_iff {e : ParseError} :
    (p.convert f).parse.Rejects c e c' ↔ p.parse.Rejects c e c' := by
  show Parse.Rejects (p.attempt >>= _) (p.approach c) e c' ↔ _
  rw [Parse.rejects_bind_iff]
  exact or_iff_left fun ⟨_, _, _, h⟩ => Parse.not_rejects_pure h

lemma fails_convert_iff : (p.convert f).parse.Fails c ↔ p.parse.Fails c :=
  exists_congr fun _ => exists_congr fun _ => rejects_convert_iff

end Parlance.Parser
