import Parlance.Proofs.InStep

/-!
# Parses that agree

Two parses agree if, from near cursors, they have the same fault, or read the same text and come to
the same result. They are only compared from cursors that a parse from some given cursor may get to,
so that it can be said of two ways to read rules that they agree from there on.

A parse that gives up because rules are nested too deep may be compared with one that is allowed more
depth. It then agrees `lax`ly: where the first gives up, nothing is asked of the second.

Agreement is compositional (`Parse.Agree.compositional`), so a grammar agrees with itself if two ways
to read the rules that it refers to do (`Grammar.agree_parserWith`).
-/

namespace Parlance

variable {α β : Type}

/-! ## Cursors that a parse may get to -/

/-- Cursors at one place from which the same blanks are skipped. There are none to be skipped at the
end of the text. -/
structure Cursor.Near (c d : Cursor) : Prop where
  place_eq : c.place = d.place
  skips_eq : c.ahead = [] ∨ c.isVerbatim = d.isVerbatim

/-- A parse that is run from `c₀` may run another one from `c`, further on in the text or inside a
verbatim token. -/
structure Cursor.Reaches (c₀ c : Cursor) : Prop where
  place_eq : ∃ t, t <+: c₀.ahead ∧ c.place = c₀.place.past t
  isVerbatim : c₀.isVerbatim = true → c.isVerbatim = true

/-- Near cursors that a parse from `c₀` may get to. -/
structure Cursor.Close (c₀ c d : Cursor) : Prop where
  reaches : c₀.Reaches c
  near : c.Near d

namespace Cursor

variable {c₀ c d : Cursor}

lemma Near.ahead_eq (h : c.Near d) : c.ahead = d.ahead := congrArg Place.ahead h.place_eq

lemma Near.refl (c : Cursor) : c.Near c := ⟨rfl, Or.inr rfl⟩

lemma Near.symm (h : c.Near d) : d.Near c :=
  ⟨h.place_eq.symm, h.skips_eq.imp (fun hend => h.ahead_eq ▸ hend) Eq.symm⟩

lemma Reaches.refl (c : Cursor) : c.Reaches c := ⟨⟨[], List.nil_prefix, rfl⟩, id⟩

lemma Near.close (h : c.Near d) : c.Close c d := ⟨.refl c, h⟩

lemma Reaches.past (h : c₀.Reaches c) {t : List Char} (ht : t <+: c.ahead) :
    c₀.Reaches (c.past t) := by
  obtain ⟨s, hs, hplace⟩ := h.place_eq
  have hahead : c.ahead = (c₀.past s).ahead := congrArg Place.ahead hplace
  rw [hahead] at ht
  refine ⟨⟨s ++ t, append_prefix_ahead hs ht, ?_⟩, h.isVerbatim⟩
  rw [← Place.past_past, ← hplace]
  rfl

lemma Close.past (h : c₀.Close c d) {t : List Char} (ht : t <+: c.ahead) :
    c₀.Close (c.past t) (d.past t) := by
  refine ⟨h.reaches.past ht, ⟨congrArg (·.past t) h.near.place_eq, ?_⟩⟩
  refine h.near.skips_eq.imp (fun hend => ?_) id
  rw [ahead_past, hend, List.drop_nil]

lemma Close.commit (h : c₀.Close c d) : c₀.Close c.commit d.commit :=
  ⟨⟨h.reaches.place_eq, h.reaches.isVerbatim⟩, ⟨h.near.place_eq, h.near.skips_eq⟩⟩

lemma Close.enterVerbatim (h : c₀.Close c d) : c₀.Close c.enterVerbatim d.enterVerbatim := by
  have hverbatim : ∀ c : Cursor, c.enterVerbatim.isVerbatim = true :=
    fun c => decide_eq_true (Nat.succ_pos c.verbatim)
  refine ⟨⟨h.reaches.place_eq, fun _ => hverbatim c⟩, ⟨h.near.place_eq, Or.inr ?_⟩⟩
  rw [hverbatim, hverbatim]

/-- The same blanks are skipped from near cursors. -/
lemma Near.exists_skipBlank_eq (h : c.Near d) :
    ∃ t, t <+: c.ahead ∧ c.skipBlank = c.past t ∧ d.skipBlank = d.past t := by
  rw [skipBlank_eq, skipBlank_eq, ← h.ahead_eq]
  rcases h.skips_eq with hend | hverbatim
  · -- whether or not blanks would be skipped, there are none
    refine ⟨[], List.nil_prefix, ?_, ?_⟩ <;>
      rw [hend, List.takeWhile_nil, past_nil, ite_self]
  · rw [← hverbatim]
    split
    · exact ⟨[], List.nil_prefix, rfl, rfl⟩
    · exact ⟨_, List.takeWhile_prefix _, rfl, rfl⟩

end Cursor

/-! ## Answers that agree -/

/-- The answers of two runs that agree, from `c` and from `d`: the same fault, or the same result
behind the same text. -/
inductive Agreeing (lax : Prop) (c d : Cursor) :
    Except Fault (Reply α) → Except Fault (Reply α) → Prop
  /-- The first run gives up, which says nothing about the second. -/
  | endless (answer : Except Fault (Reply α)) :
    lax → Agreeing lax c d (.error .endlessRecursion) answer
  | fault (f : Fault) : Agreeing lax c d (.error f) (.error f)
  | reply (result : Except ParseError α) {t : List Char} (n : ℕ) :
    t <+: c.ahead → Agreeing lax c d (.ok ⟨result, c.past t, n⟩) (.ok ⟨result, d.past t, n⟩)

/-- From near cursors that a parse from `c₀` may get to, `p` and `q` agree. -/
def Parse.Agree (lax : Prop) (c₀ : Cursor) (α : Type) (p q : Parse α) : Prop :=
  ∀ c d, c₀.Close c d → Agreeing lax c d (p c) (q d)

namespace Agreeing

variable {lax : Prop} {c d : Cursor} {x y : Except Fault (Reply α)}

/-- From one cursor, answers that agree are the same answer. -/
lemma eq (h : Agreeing False c c x y) : x = y := by
  cases h with
  | endless _ hlax => exact hlax.elim
  | fault | reply => rfl

/-- What agrees behind some text agrees from before it, with more attempts on the way. -/
lemma behind {t : List Char} (ht : t <+: c.ahead) (h : Agreeing lax (c.past t) (d.past t) x y)
    (n : ℕ) :
    Agreeing lax c d (x.map fun reply => { reply with attempts := n + reply.attempts })
      (y.map fun reply => { reply with attempts := n + reply.attempts }) := by
  cases h with
  | endless answer hlax => exact .endless _ hlax
  | fault f => exact .fault f
  | reply result m hs =>
    simp only [Except.map, Cursor.past_past]
    exact .reply result _ (Cursor.append_prefix_ahead ht hs)

/-- Unless the first run gives up, nothing is lax. -/
lemma strict (h : Agreeing lax c d x y) (hx : x ≠ .error .endlessRecursion) :
    Agreeing False c d x y := by
  cases h with
  | endless => exact absurd rfl hx
  | fault f => exact .fault f
  | reply result n ht => exact .reply result n ht

lemma endless_iff (h : Agreeing False c d x y) :
    x = .error .endlessRecursion ↔ y = .error .endlessRecursion := by
  cases h with
  | endless _ hlax => exact hlax.elim
  | fault => exact Iff.rfl
  | reply => simp

end Agreeing

namespace Parse.Agree

variable {lax : Prop} {c₀ : Cursor} {p q : Parse α}

protected lemma pure (a : α) : Agree lax c₀ α (pure a) (pure a) :=
  fun _ _ _ => .reply (.ok a) (t := []) 0 List.nil_prefix

/-- Moves that read the same text from near cursors agree. -/
lemma modify {f : Cursor → Cursor}
    (hf : ∀ {c d}, c₀.Close c d → ∃ t, t <+: c.ahead ∧ f c = c.past t ∧ f d = d.past t) :
    Agree lax c₀ Unit (Parse.modify f) (Parse.modify f) := by
  intro c d hcd
  obtain ⟨t, ht, hc, hd⟩ := hf hcd
  unfold Parse.modify
  rw [hc, hd]
  exact .reply (.ok ()) 0 ht

lemma advance : Agree lax c₀ _ Parse.advance Parse.advance := by
  intro c d hcd
  have hahead := hcd.near.ahead_eq
  unfold Parse.advance
  cases hc : c.ahead with
  | nil =>
    rw [Cursor.advance_of_nil hc, Cursor.advance_of_nil (hahead ▸ hc)]
    exact .reply (.ok none) (t := []) 0 List.nil_prefix
  | cons x rest =>
    rw [Cursor.advance_of_cons hc, Cursor.advance_of_cons (hahead ▸ hc)]
    exact .reply (.ok (some x)) 0 ⟨rest, hc.symm⟩

lemma fail (k : Complaint) : Agree lax c₀ α (Parse.fail k.errorAt) (Parse.fail k.errorAt) := by
  intro c d hcd
  unfold Parse.fail
  rw [k.errorAt_eq_of_place_eq hcd.near.place_eq]
  exact .reply (.error (k.errorAt d)) (t := []) 0 List.nil_prefix

lemma bind {f g : α → Parse β} (hpq : Agree lax c₀ α p q)
    (hfg : ∀ a, Agree lax c₀ β (f a) (g a)) : Agree lax c₀ β (p >>= f) (q >>= g) := by
  intro c d hcd
  rw [bind_apply, bind_apply]
  have h := hpq c d hcd
  generalize p c = x, q d = y at h ⊢
  cases h with
  | endless answer hlax => exact .endless _ hlax
  | fault f => exact .fault f
  | @reply result t n ht =>
    cases result with
    | error e => exact .reply (.error e) n ht
    | ok a =>
      -- the second runs begin behind the text that both first ones have read
      have hlater := (hfg a _ _ (hcd.past ht)).behind ht n
      dsimp only
      generalize f a (c.past t) = x, g a (d.past t) = y at hlater ⊢
      rcases x with fault | later <;> rcases y with fault' | later' <;> exact hlater

lemma consult {f g : Cursor → Parse α}
    (hfg : ∀ c d, c₀.Close c d → Agree lax c₀ α (f c) (g d)) :
    Agree lax c₀ α (get >>= f) (get >>= g) := by
  intro c d hcd
  rw [get_bind_apply, get_bind_apply]
  exact hfg c d hcd c d hcd

/-- Parses that prepare the cursor for others, and rework their replies. -/
lemma around {p' q' : Parse β} (hpq : Agree lax c₀ α p q) (enter : Cursor → Cursor)
    {leave : Cursor → Reply α → Reply β} (hp : ∀ c, p' c = (p (enter c)).map (leave c))
    (hq : ∀ d, q' d = (q (enter d)).map (leave d))
    (henter : ∀ {c d}, c₀.Close c d → c₀.Close (enter c) (enter d))
    (hleave : ∀ {c d}, c₀.Close c d → ∀ result t n, t <+: (enter c).ahead →
      Agreeing lax c d (.ok (leave c ⟨result, (enter c).past t, n⟩))
        (.ok (leave d ⟨result, (enter d).past t, n⟩))) : Agree lax c₀ β p' q' := by
  intro c d hcd
  rw [hp, hq]
  have h := hpq _ _ (henter hcd)
  generalize p (enter c) = x, q (enter d) = y at h ⊢
  cases h with
  | endless answer hlax => exact .endless _ hlax
  | fault f => exact .fault f
  | reply result n ht => exact hleave hcd result _ n ht

/-- What is rejected is taken back to where it began. -/
lemma speculate (hpq : Agree lax c₀ α p q) : Agree lax c₀ α p.speculate q.speculate := by
  intro c d hcd
  have h := hpq _ _ hcd.commit
  generalize hx : p c.commit = x, hy : q d.commit = y at h
  cases h with
  | endless answer hlax =>
    have hp : p.speculate c = .error .endlessRecursion := by
      unfold Parse.speculate
      rw [hx]
    rw [hp]
    exact .endless _ hlax
  | fault f =>
    unfold Parse.speculate
    rw [hx, hy]
    exact .fault f
  | reply result n ht =>
    cases result with
    | ok a =>
      rw [speculate_of_accepted hx, speculate_of_accepted hy]
      exact .reply (.ok a) n ht
    | error e =>
      rw [speculate_of_rejected hx, speculate_of_rejected hy]
      exact .reply (.error e) (t := []) n List.nil_prefix

/-- Agreement is compositional. -/
theorem compositional (lax : Prop) (c₀ : Cursor) : Compositional c₀.Close (Agree lax c₀) where
  ahead_eq hcd := hcd.near.ahead_eq
  pure := Agree.pure
  bind := bind
  consult := consult
  measured {_ p q} hpq := by
    refine hpq.around id p.measured_eq q.measured_eq id fun {c d} hcd result t n ht => ?_
    -- offsets are only compared with one another, and the same text takes the same bytes
    have hmoved : decide ((c.past t).offset ≠ c.offset) = decide ((d.past t).offset ≠ d.offset) := by
      simp only [Cursor.offset_past, ne_eq, Nat.add_eq_left]
    dsimp only [id_eq]
    rw [hmoved]
    exact .reply _ n ht
  advance := advance
  advanceBytes k := modify fun {c d} hcd =>
    ⟨takeBytes k c.ahead, takeBytes_prefix k c.ahead, c.advanceBytes_eq k, by
      rw [d.advanceBytes_eq, hcd.near.ahead_eq]⟩
  skipBlank := modify fun hcd => hcd.near.exists_skipBlank_eq
  fail := fail
  tentatively {_ p q} hpq := by
    refine hpq.speculate.around id (Orderly.tentatively_eq p) (Orderly.tentatively_eq q) id
      fun hcd result t n ht => ?_
    cases result with
    | error e => exact .reply (.ok none) n ht
    | ok a => exact .reply (.ok (some a)) n ht
  verbatim {_ p q} hpq := by
    refine hpq.around Cursor.enterVerbatim (Orderly.verbatim_eq p) (Orderly.verbatim_eq q)
      Cursor.Close.enterVerbatim fun hcd result t n ht => ?_
    exact .reply result n ht
  counted {_ p q} hpq := by
    refine hpq.around id (Orderly.counted_eq p) (Orderly.counted_eq q) id
      fun hcd result t n ht => ?_
    exact .reply result (n + 1) ht

end Parse.Agree

/-- A grammar agrees with itself if two ways to read the rules that it refers to agree. -/
lemma Grammar.agree_parserWith {lax : Prop} {c₀ : Cursor} {rule rule' : String → Parse Value}
    (hrule : ∀ name, Parse.Agree lax c₀ Value (rule name) (rule' name)) (g : Grammar) :
    Parse.Agree lax c₀ Value (g.parserWith rule).parse (g.parserWith rule').parse := by
  have h := Parse.Agree.compositional lax c₀
  have hadmits : Compositional.Admits c₀.Close (Parse.Agree lax c₀) [] rule rule' g :=
    ⟨⟨fun _ _ _ => Parse.Agree.speculate, fun _ _ _ => fun hcd => hcd.near.place_eq⟩,
      fun name _ => hrule name⟩
  exact h.parse (h.parserWith g hadmits)

end Parlance
