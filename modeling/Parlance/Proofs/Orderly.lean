import Parlance.Proofs.Outcome

/-!
# Orderly parses

A parse is orderly if it treats the cursor as a parser should: it does not look at the saved
places and puts back whatever it saves, it only reads on, and it never drops or restores a place
that is not there. `Orderly` states this for one parse, and the lemmas below show that every step
is orderly and that sequencing, speculation and verbatim tokens keep it.

For an orderly parse, speculation has a simple meaning (`speculate_eq`): a rejected text leaves
the cursor exactly as it was.
-/

namespace Parlance

variable {α β : Type}

/-- The same reply with other saved places in its cursor. -/
def Reply.withSaved (reply : Reply α) (saved : List Place) : Reply α :=
  { reply with cursor := reply.cursor.withSaved saved }

namespace Parse

/-- A parse that keeps the cursor in order. -/
structure Orderly (p : Parse α) : Prop where
  /-- Saved places have no influence and are left as they are. -/
  blind : ∀ c saved, p (c.withSaved saved) = (p c).map (·.withSaved saved)
  /-- Some of the text ahead is read, and nothing else about the cursor changes. -/
  forward : ∀ {c reply}, p c = .ok reply → ∃ t, t <+: c.ahead ∧ reply.cursor = c.past t
  /-- No place is dropped or restored that has not been saved. -/
  proper : ∀ {c fault}, p c = .error fault →
    fault ≠ .unmatchedFinish ∧ fault ≠ .unmatchedRollback

/-! ## Steps -/

namespace Orderly

lemma pure (a : α) : Orderly (Pure.pure a : Parse α) where
  blind c saved := rfl
  forward := by
    intro c reply h
    rw [pure_apply] at h
    cases h
    exact ⟨[], List.nil_prefix, rfl⟩
  proper := by
    intro c fault h
    rw [pure_apply] at h
    cases h

lemma modify {f : Cursor → Cursor}
    (hblind : ∀ c saved, f (c.withSaved saved) = (f c).withSaved saved)
    (hforward : ∀ c, ∃ t, t <+: c.ahead ∧ f c = c.past t) : Orderly (Parse.modify f) where
  blind c saved := by
    simp only [Parse.modify, hblind]
    rfl
  forward := by
    intro c reply h
    cases h
    exact hforward c
  proper := by
    intro c fault h
    cases h

lemma advance : Orderly Parse.advance where
  blind c saved := by
    unfold Parse.advance Cursor.advance Cursor.withSaved
    rcases c.place.ahead with _ | ⟨x, rest⟩ <;> rfl
  forward := by
    intro c reply h
    cases h
    exact c.exists_advance_eq
  proper := by
    intro c fault h
    cases h

lemma fail {error : Cursor → ParseError} (herror : ∀ c saved, error (c.withSaved saved) = error c) :
    Orderly (Parse.fail error : Parse α) where
  blind c saved := by
    simp only [Parse.fail, herror]
    rfl
  forward := by
    intro c reply h
    cases h
    exact ⟨[], List.nil_prefix, rfl⟩
  proper := by
    intro c fault h
    cases h

lemma fault {f : Fault} (hfinish : f ≠ .unmatchedFinish) (hrollback : f ≠ .unmatchedRollback) :
    Orderly (Parse.fault f : Parse α) where
  blind c saved := rfl
  forward := by
    intro c reply h
    cases h
  proper := by
    intro c fault h
    cases h
    exact ⟨hfinish, hrollback⟩

/-- Looking at the cursor is orderly as long as the saved places are not looked at. -/
lemma consult {f : Cursor → Parse α} (hf : ∀ c, Orderly (f c))
    (hblind : ∀ c saved, f (c.withSaved saved) = f c) : Orderly (Parse.get >>= f) := by
  constructor
  · intro c saved
    rw [get_bind_apply, get_bind_apply, hblind, (hf c).blind]
  · intro c reply h
    rw [get_bind_apply] at h
    exact (hf c).forward h
  · intro c fault h
    rw [get_bind_apply] at h
    exact (hf c).proper h

/-! ## Sequencing -/

/-- What comes second only has to be orderly for values that the first parse reads. -/
lemma bindOf {p : Parse α} {f : α → Parse β} (hp : Orderly p)
    (hf : ∀ a, (∃ c c', p.Accepts c a c') → Orderly (f a)) : Orderly (p >>= f) where
  blind c saved := by
    rw [bind_apply, bind_apply, hp.blind]
    rcases hpc : p c with fault | ⟨e | a, c₁, n⟩
    · rfl
    · rfl
    · -- the second step is blind as well, and starts with the saved places of the first
      simp only [Except.map, Reply.withSaved]
      rw [(hf a ⟨c, c₁, n, hpc⟩).blind]
      rcases f a c₁ with fault | reply <;> rfl
  forward := by
    intro c reply h
    rw [bind_apply] at h
    rcases hpc : p c with fault | ⟨e | a, c₁, n⟩
    · simp [hpc] at h
    · simp only [hpc, Except.ok.injEq] at h
      subst h
      exact hp.forward hpc
    · rcases hfc : f a c₁ with fault | reply₂
      · simp [hpc, hfc] at h
      · simp only [hpc, hfc, Except.ok.injEq] at h
        subst h
        -- what is read is what both steps read, one after the other
        obtain ⟨s, hs, hc₁⟩ := hp.forward hpc
        obtain ⟨t, ht, hc₂⟩ := (hf a ⟨c, c₁, n, hpc⟩).forward hfc
        dsimp only at hc₁
        subst hc₁
        refine ⟨s ++ t, Cursor.append_prefix_ahead hs ht, ?_⟩
        rw [← Cursor.past_past]
        exact hc₂
  proper := by
    intro c fault h
    rw [bind_apply] at h
    rcases hpc : p c with fault₁ | ⟨e | a, c₁, n⟩
    · simp only [hpc, Except.error.injEq] at h
      subst h
      exact hp.proper hpc
    · simp [hpc] at h
    · rcases hfc : f a c₁ with fault₂ | reply₂
      · simp only [hpc, hfc, Except.error.injEq] at h
        subst h
        exact (hf a ⟨c, c₁, n, hpc⟩).proper hfc
      · simp [hpc, hfc] at h

/-! ## Parses around a parse -/

/-- A parse that prepares the cursor, runs an orderly one and reworks its reply is orderly if the
preparation and the rework are. -/
lemma around {p : Parse α} {q : Parse β} (hp : Orderly p) (enter : Cursor → Cursor)
    (leave : Cursor → Reply α → Reply β) (hq : ∀ c, q c = (p (enter c)).map (leave c))
    (henter : ∀ c saved, enter (c.withSaved saved) = (enter c).withSaved saved)
    (hblind : ∀ c saved reply,
      leave (c.withSaved saved) (reply.withSaved saved) = (leave c reply).withSaved saved)
    (hforward : ∀ c t reply, t <+: (enter c).ahead → reply.cursor = (enter c).past t →
      ∃ s, s <+: c.ahead ∧ (leave c reply).cursor = c.past s) : Orderly q where
  blind c saved := by
    rw [hq, hq, henter, hp.blind]
    rcases p (enter c) with fault | reply
    · rfl
    · exact congrArg Except.ok (hblind c saved reply)
  forward := by
    intro c reply h
    rw [hq] at h
    rcases hpc : p (enter c) with fault | reply₁
    · simp [hpc, Except.map] at h
    · simp only [hpc, Except.map, Except.ok.injEq] at h
      subst h
      obtain ⟨t, ht, hc'⟩ := hp.forward hpc
      exact hforward c t reply₁ ht hc'
  proper := by
    intro c fault h
    rw [hq] at h
    rcases hpc : p (enter c) with fault₁ | reply₁
    · simp only [hpc, Except.map, Except.error.injEq] at h
      subst h
      exact hp.proper hpc
    · simp [hpc, Except.map] at h

/-- The reply of a parse whose rejection is taken back to `c`. -/
def undo (c : Cursor) : Reply α → Reply α
  | ⟨.ok a, c', n⟩ => ⟨.ok a, c', n⟩
  | ⟨.error e, _, n⟩ => ⟨.error e, c, n⟩

/-- Speculation answers as the parse does, and takes a rejected text back as a whole. -/
lemma speculate_eq {p : Parse α} (hp : Orderly p) (c : Cursor) :
    p.speculate c = (p c).map (undo c) := by
  unfold Parse.speculate
  rw [Cursor.commit_eq, hp.blind]
  rcases hpc : p c with fault | ⟨e | a, c', n⟩
  · rfl
  · -- the place saved last is where the parse began
    obtain ⟨t, -, hc'⟩ := hp.forward hpc
    dsimp only at hc'
    subst hc'
    rfl
  · obtain ⟨t, -, hc'⟩ := hp.forward hpc
    dsimp only at hc'
    subst hc'
    rfl

lemma speculate {p : Parse α} (hp : Orderly p) : Orderly p.speculate := by
  refine hp.around id undo hp.speculate_eq (fun _ _ => rfl) ?_ ?_
  · intro c saved reply
    rcases reply with ⟨e | a, c', n⟩ <;> rfl
  · intro c t reply ht hc'
    rcases reply with ⟨e | a, c', n⟩
    · exact ⟨[], List.nil_prefix, rfl⟩
    · exact ⟨t, ht, hc'⟩

/-- The reply of a parse that does not mind a rejection. -/
def excuse : Reply α → Reply (Option α)
  | ⟨.ok a, c, n⟩ => ⟨.ok (some a), c, n⟩
  | ⟨.error _, c, n⟩ => ⟨.ok none, c, n⟩

lemma tentatively_eq (p : Parse α) (c : Cursor) :
    p.tentatively c = (p.speculate c).map excuse := by
  unfold Parse.tentatively
  rcases p.speculate c with fault | ⟨e | a, c', n⟩ <;> rfl

lemma tentatively {p : Parse α} (hp : Orderly p) : Orderly p.tentatively := by
  refine hp.speculate.around id (fun _ => excuse) (tentatively_eq p) (fun _ _ => rfl) ?_ ?_
  · intro c saved reply
    rcases reply with ⟨e | a, c', n⟩ <;> rfl
  · intro c t reply ht hc'
    rcases reply with ⟨e | a, c', n⟩ <;> exact ⟨t, ht, hc'⟩

lemma verbatim_eq (p : Parse α) (c : Cursor) :
    p.verbatim c = (p c.enterVerbatim).map fun reply =>
      { reply with cursor := reply.cursor.exitVerbatim } := by
  unfold Parse.verbatim
  rcases p c.enterVerbatim with fault | reply <;> rfl

lemma verbatim {p : Parse α} (hp : Orderly p) : Orderly p.verbatim := by
  refine hp.around Cursor.enterVerbatim _ (verbatim_eq p) (fun _ _ => rfl)
    (fun _ _ _ => rfl) ?_
  intro c t reply ht hc'
  exact ⟨t, ht, by rw [hc']; rfl⟩

lemma counted_eq (p : Parse α) (c : Cursor) :
    p.counted c = (p c).map fun reply => { reply with attempts := reply.attempts + 1 } := by
  unfold Parse.counted
  rcases p c with fault | reply <;> rfl

lemma counted {p : Parse α} (hp : Orderly p) : Orderly p.counted :=
  hp.around id _ (counted_eq p) (fun _ _ => rfl) (fun _ _ _ => rfl) fun _ t _ ht hc' => ⟨t, ht, hc'⟩

end Orderly

/-! ## Outcomes of speculation and of verbatim tokens -/

section Outcomes

variable {p : Parse α} {c c' : Cursor}

lemma Orderly.accepts_speculate_iff (hp : Orderly p) {a : α} :
    p.speculate.Accepts c a c' ↔ p.Accepts c a c' := by
  unfold Accepts
  rw [hp.speculate_eq]
  rcases p c with fault | ⟨e | b, c₁, n⟩ <;> simp [Except.map, Orderly.undo]

lemma Orderly.rejects_speculate_iff (hp : Orderly p) {e : ParseError} :
    p.speculate.Rejects c e c' ↔ c' = c ∧ ∃ c₁, p.Rejects c e c₁ := by
  unfold Rejects
  rw [hp.speculate_eq]
  rcases p c with fault | ⟨e | b, c₁, n⟩ <;> simp [Except.map, Orderly.undo, and_comm, eq_comm]

lemma Orderly.fails_speculate_iff (hp : p.Orderly) : p.speculate.Fails c ↔ p.Fails c := by
  constructor
  · intro ⟨e, c', h⟩
    obtain ⟨-, c₁, h⟩ := hp.rejects_speculate_iff.mp h
    exact h.fails
  · intro ⟨e, c', h⟩
    exact ⟨e, c, hp.rejects_speculate_iff.mpr ⟨rfl, c', h⟩⟩

lemma Orderly.accepts_some_tentatively_iff (hp : Orderly p) {a : α} :
    p.tentatively.Accepts c (some a) c' ↔ p.Accepts c a c' := by
  unfold Accepts
  rw [Orderly.tentatively_eq, hp.speculate_eq]
  rcases p c with fault | ⟨e | b, c₁, n⟩ <;> simp [Except.map, Orderly.undo, Orderly.excuse]

lemma Orderly.accepts_none_tentatively_iff (hp : Orderly p) :
    p.tentatively.Accepts c none c' ↔ c' = c ∧ p.Fails c := by
  unfold Accepts Fails Rejects
  rw [Orderly.tentatively_eq, hp.speculate_eq]
  rcases p c with fault | ⟨e | b, c₁, n⟩ <;>
    simp [Except.map, Orderly.undo, Orderly.excuse, eq_comm]

lemma not_rejects_tentatively {e : ParseError} : ¬ p.tentatively.Rejects c e c' := by
  intro ⟨n, hn⟩
  rw [Orderly.tentatively_eq] at hn
  rcases hp : p.speculate c with fault | ⟨e | b, c₁, n⟩ <;>
    simp [hp, Except.map, Orderly.excuse] at hn

/-- What is read tentatively is read by the parse itself, also if it is not orderly. -/
lemma exists_accepts_of_accepts_tentatively {a : α} (h : p.tentatively.Accepts c (some a) c') :
    ∃ d d', p.Accepts d a d' := by
  obtain ⟨n, hn⟩ := h
  rw [Orderly.tentatively_eq, Parse.speculate] at hn
  -- the place is saved before the parse is run
  rcases hp : p c.commit with fault | ⟨e | b, c₁, m⟩
  · simp [hp, Except.map] at hn
  · cases hback : c₁.rollback <;> simp [hp, hback, Except.map, Orderly.excuse] at hn
  · cases hfinish : c₁.finish with
    | error fault => simp [hp, hfinish, Except.map] at hn
    | ok c₂ =>
      simp only [hp, hfinish, Except.map, Orderly.excuse, Except.ok.injEq, Reply.mk.injEq,
        Option.some.injEq] at hn
      obtain ⟨rfl, -⟩ := hn
      exact ⟨c.commit, c₁, m, hp⟩

lemma accepts_verbatim_iff {a : α} :
    p.verbatim.Accepts c a c' ↔ ∃ c₁, p.Accepts c.enterVerbatim a c₁ ∧ c' = c₁.exitVerbatim := by
  unfold Accepts
  rw [Orderly.verbatim_eq]
  rcases p c.enterVerbatim with fault | ⟨e | b, c₁, n⟩ <;> simp [Except.map, eq_comm]

lemma rejects_verbatim_iff {e : ParseError} :
    p.verbatim.Rejects c e c' ↔ ∃ c₁, p.Rejects c.enterVerbatim e c₁ ∧ c' = c₁.exitVerbatim := by
  unfold Rejects
  rw [Orderly.verbatim_eq]
  rcases p c.enterVerbatim with fault | ⟨e | b, c₁, n⟩ <;> simp [Except.map, eq_comm]

lemma fails_verbatim_iff : p.verbatim.Fails c ↔ p.Fails c.enterVerbatim := by
  unfold Fails Rejects
  rw [Orderly.verbatim_eq]
  rcases p c.enterVerbatim with fault | ⟨e | b, c₁, n⟩ <;> simp [Except.map]

/-- Counting a parse has no influence on its outcome. -/
lemma accepts_counted_iff {a : α} : p.counted.Accepts c a c' ↔ p.Accepts c a c' := by
  unfold Accepts
  rw [Orderly.counted_eq]
  rcases p c with fault | ⟨e | b, c₁, n⟩ <;> simp [Except.map]

lemma fails_counted_iff : p.counted.Fails c ↔ p.Fails c := by
  unfold Fails Rejects
  rw [Orderly.counted_eq]
  rcases p c with fault | ⟨e | b, c₁, n⟩ <;> simp [Except.map]

/-- What an orderly parse accepts is some of the text ahead. -/
lemma Orderly.exists_past_of_accepts (hp : Orderly p) {a : α} (h : p.Accepts c a c') :
    ∃ t, t <+: c.ahead ∧ c' = c.past t := by
  obtain ⟨n, hn⟩ := h
  exact hp.forward hn

end Outcomes

end Parse

end Parlance
