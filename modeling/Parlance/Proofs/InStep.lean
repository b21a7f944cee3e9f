import Parlance.Proofs.Compositional.Grammar
import Parlance.Proofs.Orderly

/-!
# Runs in step

Two parses run in step if, from near cursors, they read the same text and give the same value, or
fail with the same complaint, made behind the same text. The text behind which a complaint is made
is part of the text ahead, and the cursor that is left stands there, or before it where a failed
speculation was taken back.

Running in step is a compositional relation (`Nearness.compositional`), so every grammar runs in
step with itself (`Grammar.inStep`). Only `only` takes a failure back and passes its error on, so
without it the cursor is always left where the complaint was made: that is the `strict` case.
-/

namespace Parlance

variable {α β : Type}

/-! ## Runs from a cursor -/

namespace Parse

variable {p : Parse α} {c : Cursor}

lemma speculate_of_accepted {a : α} {t : List Char} {n : ℕ}
    (h : p c.commit = .ok ⟨.ok a, c.commit.past t, n⟩) :
    p.speculate c = .ok ⟨.ok a, c.past t, n⟩ := by
  unfold speculate
  rw [h]
  rfl

lemma speculate_of_rejected {e : ParseError} {t : List Char} {n : ℕ}
    (h : p c.commit = .ok ⟨.error e, c.commit.past t, n⟩) :
    p.speculate c = .ok ⟨.error e, c, n⟩ := by
  unfold speculate
  rw [h]
  rfl

lemma exists_of_speculate {r : Reply α} (h : p.speculate c = .ok r) :
    ∃ r', p c.commit = .ok r' := by
  cases hp : p c.commit with
  | ok r' => exact ⟨r', rfl⟩
  | error fault =>
    unfold speculate at h
    rw [hp] at h
    cases h

lemma measured_eq (p : Parse α) (c : Cursor) :
    p.measured c = (p c).map fun reply =>
      { reply with
        result := reply.result.map fun a => (a, decide (reply.cursor.offset ≠ c.offset)) } := by
  unfold measured
  rw [get_bind_apply, bind_apply]
  rcases p c with fault | ⟨e | a, c', n⟩ <;> rfl

end Parse

/-! ## Runs in step -/

/-- Cursors that two runs in step may begin from, and may be at later. -/
structure Nearness (near : Cursor → Cursor → Prop) : Prop where
  ahead_eq : ∀ {c d}, near c d → c.ahead = d.ahead
  isVerbatim_eq : ∀ {c d}, near c d → c.isVerbatim = d.isVerbatim
  past : ∀ {c d}, near c d → ∀ t, near (c.past t) (d.past t)
  commit : ∀ {c d}, near c d → near c.commit d.commit
  enterVerbatim : ∀ {c d}, near c d → near c.enterVerbatim d.enterVerbatim

/-- The replies of two runs in step, from `c` and from `d`. -/
inductive Reply.InStep (strict : Prop) (c d : Cursor) : Reply α → Reply α → Prop
  | accepted {a : α} {t : List Char} {n m : ℕ} :
    t <+: c.ahead → InStep strict c d ⟨.ok a, c.past t, n⟩ ⟨.ok a, d.past t, m⟩
  /-- The complaint is made behind `t`, and the cursor is left behind `s`. -/
  | rejected {k : Complaint} {s t : List Char} {n m : ℕ} :
    s <+: t → t <+: c.ahead → (strict → s = t) →
    InStep strict c d ⟨.error (k.errorAt (c.past t)), c.past s, n⟩
      ⟨.error (k.errorAt (d.past t)), d.past s, m⟩

/-- From near cursors `p` and `q` run in step whenever both give a reply. -/
def Parse.InStep (near : Cursor → Cursor → Prop) (strict : Prop) (α : Type) (p q : Parse α) :
    Prop :=
  ∀ c d, near c d → ∀ r r', p c = .ok r → q d = .ok r' → r.InStep strict c d r'

variable {near : Cursor → Cursor → Prop} {strict : Prop}

namespace Reply.InStep

variable {c d : Cursor} {r r' : Reply α}

/-- What is in step behind some text is in step from before it. -/
lemma behind {t : List Char} (ht : t <+: c.ahead)
    (h : r.InStep strict (c.past t) (d.past t) r') (n m : ℕ) :
    Reply.InStep strict c d { r with attempts := n } { r' with attempts := m } := by
  cases h with
  | accepted hs =>
    rw [Cursor.past_past, Cursor.past_past]
    exact .accepted (Cursor.append_prefix_ahead ht hs)
  | rejected hst ht' hstrict =>
    rw [Cursor.past_past, Cursor.past_past, Cursor.past_past, Cursor.past_past]
    refine .rejected ((List.prefix_append_right_inj t).mpr hst)
      (Cursor.append_prefix_ahead ht ht') fun h => ?_
    rw [hstrict h]

lemma weaken (h : r.InStep strict c d r') : r.InStep False c d r' := by
  cases h with
  | accepted ht => exact .accepted ht
  | rejected hst ht _ => exact .rejected hst ht False.elim

/-- A verbatim token around one of the runs makes no difference. -/
lemma exitLeft (h : r.InStep strict c.enterVerbatim d r') :
    Reply.InStep strict c d { r with cursor := r.cursor.exitVerbatim } r' := by
  cases h with
  | accepted ht => exact .accepted ht
  | @rejected k _ _ _ _ hst ht hstrict =>
    rw [k.errorAt_enterVerbatim_past]
    exact .rejected hst ht hstrict

lemma exitRight (h : r.InStep strict c d.enterVerbatim r') :
    Reply.InStep strict c d r { r' with cursor := r'.cursor.exitVerbatim } := by
  cases h with
  | accepted ht => exact .accepted ht
  | @rejected k _ _ _ _ hst ht hstrict =>
    rw [k.errorAt_enterVerbatim_past]
    exact .rejected hst ht hstrict

end Reply.InStep

namespace Nearness

open Parse (InStep)

variable {p q : Parse α}

lemma inStep_pure (a : α) : InStep near strict α (pure a) (pure a) := by
  intro c d _ r r' h h'
  rw [Parse.pure_apply] at h h'
  cases h
  cases h'
  exact .accepted (t := []) List.nil_prefix

lemma inStep_fail (k : Complaint) :
    InStep near strict α (Parse.fail k.errorAt) (Parse.fail k.errorAt) := by
  intro c d _ r r' h h'
  cases h
  cases h'
  exact .rejected (s := []) (t := []) List.nil_prefix List.nil_prefix fun _ => rfl

/-- Moves that read a text which near cursors have in common are in step. -/
lemma inStep_modify {f : Cursor → Cursor} (text : Cursor → List Char)
    (hf : ∀ c, f c = c.past (text c)) (hbegins : ∀ c, text c <+: c.ahead)
    (htext : ∀ c d, near c d → text c = text d) :
    InStep near strict Unit (Parse.modify f) (Parse.modify f) := by
  intro c d hnear r r' h h'
  cases h
  cases h'
  rw [hf c, hf d, ← htext c d hnear]
  exact .accepted (hbegins c)

lemma inStep_bind (hnear : Nearness near) {f g : α → Parse β} (hpq : InStep near strict α p q)
    (hfg : ∀ a, InStep near strict β (f a) (g a)) :
    InStep near strict β (p >>= f) (q >>= g) := by
  intro c d hcd r r' h h'
  rw [Parse.bind_apply] at h h'
  rcases hp : p c with fault | reply
  · simp [hp] at h
  rcases hq : q d with fault | reply'
  · simp [hq] at h'
  cases hpq c d hcd _ _ hp hq with
  | rejected hst ht hstrict =>
    simp only [hp, Except.ok.injEq] at h
    simp only [hq, Except.ok.injEq] at h'
    subst h h'
    exact .rejected hst ht hstrict
  | @accepted a t n m ht =>
    -- the second steps begin behind what the first ones have read
    rcases hf : f a (c.past t) with fault | later
    · simp [hp, hf] at h
    rcases hg : g a (d.past t) with fault | later'
    · simp [hq, hg] at h'
    simp only [hp, hf, Except.ok.injEq] at h
    simp only [hq, hg, Except.ok.injEq] at h'
    subst h h'
    exact (hfg a _ _ (hnear.past hcd t) _ _ hf hg).behind ht _ _

lemma inStep_consult {f g : Cursor → Parse α}
    (hfg : ∀ c d, near c d → InStep near strict α (f c) (g d)) :
    InStep near strict α (Parse.get >>= f) (Parse.get >>= g) := by
  intro c d hcd r r' h h'
  rw [Parse.get_bind_apply] at h h'
  exact hfg c d hcd c d hcd r r' h h'

/-- Parses that prepare the cursor for others in step, and rework their replies, are in step. -/
lemma inStep_around {strict' : Prop} (hpq : InStep near strict α p q) {p' q' : Parse β}
    {enter enter' : Cursor → Cursor} {leave leave' : Cursor → Reply α → Reply β}
    (hp : ∀ c, p' c = (p (enter c)).map (leave c))
    (hq : ∀ d, q' d = (q (enter' d)).map (leave' d))
    (henter : ∀ c d, near c d → near (enter c) (enter' d))
    (hleave : ∀ c d r r', r.InStep strict (enter c) (enter' d) r' →
      (leave c r).InStep strict' c d (leave' d r')) : InStep near strict' β p' q' := by
  intro c d hcd r r' h h'
  rw [hp] at h
  rw [hq] at h'
  obtain ⟨reply, hreply, rfl⟩ := exists_of_map_eq_ok h
  obtain ⟨reply', hreply', rfl⟩ := exists_of_map_eq_ok h'
  exact hleave c d reply reply' (hpq _ _ (henter c d hcd) _ _ hreply hreply')

lemma inStep_measured (hpq : InStep near strict α p q) :
    InStep near strict _ p.measured q.measured := by
  refine inStep_around hpq p.measured_eq q.measured_eq (fun _ _ => id) fun c d r r' h => ?_
  cases h with
  | @accepted a t _ _ ht =>
    have hmoved : decide ((c.past t).offset ≠ c.offset) = decide ((d.past t).offset ≠ d.offset) := by
      simp only [Cursor.offset_past, ne_eq, Nat.add_eq_left]
    dsimp only [Except.map, id_eq]
    rw [hmoved]
    exact .accepted ht
  | rejected hst ht hstrict => exact .rejected hst ht hstrict

lemma inStep_advance (hnear : Nearness near) :
    InStep near strict _ Parse.advance Parse.advance := by
  intro c d hcd r r' h h'
  cases h
  cases h'
  have hahead := hnear.ahead_eq hcd
  cases hc : c.ahead with
  | nil =>
    rw [Cursor.advance_of_nil hc, Cursor.advance_of_nil (hahead ▸ hc)]
    exact .accepted (t := []) List.nil_prefix
  | cons x rest =>
    rw [Cursor.advance_of_cons hc, Cursor.advance_of_cons (hahead ▸ hc)]
    exact .accepted ⟨rest, hc.symm⟩

/-- Speculation takes the cursor back, but not the complaint. -/
lemma inStep_speculate (hnear : Nearness near) (hpq : InStep near False α p q) :
    InStep near False α p.speculate q.speculate := by
  intro c d hcd r r' h h'
  obtain ⟨reply, hp⟩ := Parse.exists_of_speculate h
  obtain ⟨reply', hq⟩ := Parse.exists_of_speculate h'
  cases hpq _ _ (hnear.commit hcd) _ _ hp hq with
  | accepted ht =>
    rw [Parse.speculate_of_accepted hp, Except.ok.injEq] at h
    rw [Parse.speculate_of_accepted hq, Except.ok.injEq] at h'
    subst h h'
    exact .accepted ht
  | @rejected k _ _ _ _ _ ht _ =>
    rw [Parse.speculate_of_rejected hp, Except.ok.injEq] at h
    rw [Parse.speculate_of_rejected hq, Except.ok.injEq] at h'
    rw [k.errorAt_commit_past] at h h'
    subst h h'
    exact .rejected (s := []) List.nil_prefix ht False.elim

lemma inStep_tentatively (hnear : Nearness near) (hpq : InStep near strict α p q) :
    InStep near strict _ p.tentatively q.tentatively := by
  have hweak : InStep near False α p q :=
    fun c d hcd r r' h h' => (hpq c d hcd r r' h h').weaken
  refine inStep_around (hnear.inStep_speculate hweak) (Parse.Orderly.tentatively_eq p)
    (Parse.Orderly.tentatively_eq q) (fun _ _ => id) fun c d r r' h => ?_
  cases h with
  | accepted ht => exact .accepted ht
  | rejected hst ht _ => exact .accepted (hst.trans ht)

lemma inStep_verbatim (hnear : Nearness near) (hpq : InStep near strict α p q) :
    InStep near strict α p.verbatim q.verbatim :=
  inStep_around hpq (Parse.Orderly.verbatim_eq p) (Parse.Orderly.verbatim_eq q)
    (fun _ _ => hnear.enterVerbatim) fun _ _ _ _ h => h.exitLeft.exitRight

lemma inStep_counted (hpq : InStep near strict α p q) :
    InStep near strict α p.counted q.counted :=
  inStep_around hpq (Parse.Orderly.counted_eq p) (Parse.Orderly.counted_eq q) (fun _ _ => id)
    fun _ _ _ _ h => h.behind (t := []) List.nil_prefix _ _

/-- Running in step is compositional. -/
theorem compositional (hnear : Nearness near) (strict : Prop) :
    Compositional near (InStep near strict) where
  ahead_eq := hnear.ahead_eq
  pure := inStep_pure
  bind := hnear.inStep_bind
  consult := inStep_consult
  measured := inStep_measured
  advance := hnear.inStep_advance
  advanceBytes n :=
    inStep_modify (fun c => takeBytes n c.ahead) (·.advanceBytes_eq n)
      (fun c => takeBytes_prefix n c.ahead) fun c d hcd => by rw [hnear.ahead_eq hcd]
  skipBlank := by
    refine inStep_modify (fun c => if c.isVerbatim then [] else c.ahead.takeWhile isBlank)
      (fun c => ?_) (fun c => ?_) fun c d hcd => ?_
    · rw [Cursor.skipBlank_eq]
      split <;> rfl
    · split
      · exact List.nil_prefix
      · exact List.takeWhile_prefix _
    · rw [hnear.ahead_eq hcd, hnear.isVerbatim_eq hcd]
  fail := inStep_fail
  tentatively := hnear.inStep_tentatively
  verbatim := hnear.inStep_verbatim
  counted := inStep_counted

lemma takesBack (hnear : Nearness near) (hstrict : ¬ strict) :
    TakesBack (InStep near strict) := by
  have heq : strict = False := eq_false hstrict
  subst heq
  intro α p q hpq
  exact hnear.inStep_speculate hpq

end Nearness

/-! ## Grammars -/

/-- Every grammar runs in step with itself. -/
theorem Grammar.inStep (hnear : Nearness near) (rules : Rules) (g : Grammar)
    (honly : strict → ∀ node, g.Contains rules node → node.isOnly = false)
    (hposition : ∀ node, g.Contains rules node → node.observesPosition = true → SeesPlace near) :
    Parse.InStep near strict Value (g.parser rules).parse (g.parser rules).parse := by
  have h := hnear.compositional strict
  have hfits : Compositional.Fits near (Parse.InStep near strict) rules g := by
    refine ⟨fun node hnode hnodeOnly => hnear.takesBack fun hstrict => ?_, hposition⟩
    rw [honly hstrict node hnode] at hnodeOnly
    cases hnodeOnly
  -- a parse without a reply is in step with any other
  refine h.parse (h.grammar (fun fault p => ⟨?_, ?_⟩) hfits)
  · intro c d _ r r' hr
    cases hr
  · intro c d _ r r' _ hr'
    cases hr'

end Parlance
