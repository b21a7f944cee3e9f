import Parlance.Proofs.Frame
import Parlance.Proofs.Repetition
import Mathlib.Data.List.Infix

/-!
# Grammars that repeat

`many` takes as many values as there are: from where the last one ended it goes on while its grammar
succeeds and moves the cursor. `Parse.MaximalIteration` states this with the cursors between the
values. It never fails, and to repeat it where it has ended brings nothing new
(`Grammar.many_iterates`). `sequence` is one value and then `many`.
-/

namespace Parlance

variable {α : Type}

/-! ## Iteration -/

/-- The values of `item`, read one after another: each from one of the cursors `stops` to the next.
Every value but the last moves the cursor. The iteration ends where `item` fails, or behind a value
that does not move the cursor. -/
structure Parse.MaximalIteration (item : Parse α) (values : List α) (stops : ℕ → Cursor) :
    Prop where
  each : ∀ k (hk : k < values.length), item.Accepts (stops k) values[k] (stops (k + 1))
  moves : ∀ k, k + 1 < values.length → (stops k).offset < (stops (k + 1)).offset
  ends : item.Fails (stops values.length) ∨
    ∃ k, values.length = k + 1 ∧ (stops (k + 1)).offset = (stops k).offset

/-- A cursor in front of those of an iteration. -/
def Parse.stopFirst (c : Cursor) (stops : ℕ → Cursor) : ℕ → Cursor
  | 0 => c
  | k + 1 => stops k

/-- An iteration goes on behind a value that moves the cursor. -/
lemma Parse.MaximalIteration.cons {item : Parse α} {c : Cursor} {a : α} {values : List α}
    {stops : ℕ → Cursor} (h : MaximalIteration item values stops)
    (haccepts : item.Accepts c a (stops 0)) (hmoves : c.offset < (stops 0).offset) :
    MaximalIteration item (a :: values) (stopFirst c stops) where
  each k hk := by
    cases k with
    | zero => exact haccepts
    | succ k => exact h.each k (Nat.lt_of_succ_lt_succ hk)
  moves k hk := by
    cases k with
    | zero => exact hmoves
    | succ k => exact h.moves k (Nat.lt_of_succ_lt_succ hk)
  ends := by
    refine h.ends.imp_right fun ⟨k, hlength, hstill⟩ => ⟨k + 1, ?_, hstill⟩
    rw [List.length_cons, hlength]

namespace Parser

variable {p : Parser α} {c c' : Cursor} {as : List α}

/-- A repetition goes through the cursors of an iteration. -/
lemma Repeats.exists_stops (hp : p.parse.Orderly) (h : Repeats p c as c') :
    ∃ stops : ℕ → Cursor, stops 0 = c ∧ stops as.length = c' ∧
      Parse.MaximalIteration p.parse as stops := by
  induction h with
  | @stop c hfails =>
    refine ⟨fun _ => c, rfl, rfl, ⟨fun k hk => ?_, fun k hk => ?_, Or.inl hfails⟩⟩
    · exact absurd hk (Nat.not_lt_zero k)
    · exact absurd hk (Nat.not_lt_zero (k + 1))
  | @still c c' a haccepts hstill =>
    refine ⟨Parse.stopFirst c fun _ => c', rfl, rfl, ⟨fun k hk => ?_, fun k hk => ?_, ?_⟩⟩
    · obtain rfl := Nat.lt_one_iff.mp hk
      exact haccepts
    · exact absurd (Nat.lt_of_succ_lt_succ hk) (Nat.not_lt_zero k)
    · exact Or.inr ⟨0, rfl, hstill⟩
  | @more c c₁ c' a as haccepts hmoves _ ih =>
    obtain ⟨stops, rfl, hlast, hiteration⟩ := ih
    obtain ⟨t, -, hpast⟩ := hp.exists_past_of_accepts haccepts
    have hbefore : c.offset ≤ (stops 0).offset := by
      rw [hpast, Cursor.offset_past]
      exact Nat.le_add_right _ _
    exact ⟨Parse.stopFirst c stops, rfl, hlast,
      hiteration.cons haccepts (Nat.lt_of_le_of_ne hbefore (Ne.symm hmoves))⟩

end Parser

/-! ## Grammars -/

/-- The first value of a list of two in front of the values of the second one. -/
def Value.flattenPair : Value → Value
  | .list [first, .list others] => .list (first :: others)
  | v => v

/-- One value and then as many as there are, as one list. -/
lemma Grammar.parse_sequence (rules : Rules) (g : Grammar) :
    ((Grammar.sequence g).parser rules).parse
      = (((Grammar.few [g, .many g]).parser rules).convert Value.flattenPair).parse := by
  have hmany : ((Parser.many (g.parser rules)).convert Value.list).parse
      = Parser.repeatAhead (g.parser rules) >>= fun values => pure (.list values) := rfl
  show (((g.parser rules).parse >>= fun first =>
      Parser.repeatAhead (g.parser rules) >>= fun more => pure (first :: more)) >>= fun values =>
        pure (Value.list values))
    = ((((g.parser rules).parse >>= fun first =>
        (((Parser.many (g.parser rules)).convert Value.list).parse >>= fun v =>
          (pure [] >>= fun vs => pure (v :: vs))) >>= fun values => pure (first :: values))
        >>= fun values => pure (Value.list values)) >>= fun v => pure v.flattenPair)
  rw [hmany]
  simp only [bind_assoc, pure_bind, Value.flattenPair]

/-- `many` never fails. If its grammar gives a reply wherever it may get to, `many` reads the values
of a maximal iteration, of which there are at most one more than bytes ahead. From where it ends it
reads nothing further: no value if the grammar fails there, or else the last value once more. And
`sequence` gives the reply of one value and `many` after it, with the values in one list. -/
theorem Grammar.many_iterates (rules : Rules) (g : Grammar) (c : Cursor) :
    let item := (g.parser rules).parse
    let many := ((Grammar.many g).parser rules).parse
    (∀ e c', ¬ many.Rejects c e c') ∧
      ((∀ t, t <+: c.ahead → ∃ reply, item (c.past t) = .ok reply) →
        ∃ (values : List Value) (stops : ℕ → Cursor),
          stops 0 = c ∧ item.MaximalIteration values stops ∧
          many.Accepts c (.list values) (stops values.length) ∧
          values.length ≤ byteLength c.ahead + 1 ∧
          (item.Fails (stops values.length) ∧
              many.Accepts (stops values.length) (.list []) (stops values.length) ∨
            ∃ a, values.getLast? = some a ∧
              item.Accepts (stops values.length) a (stops values.length) ∧
              many.Accepts (stops values.length) (.list [a]) (stops values.length))) ∧
      ((Grammar.sequence g).parser rules).parse c
        = (((Grammar.few [g, .many g]).parser rules).convert Value.flattenPair).parse c := by
  intro item many
  have hp : item.Orderly := g.orderly_parse rules
  have hmany : ∀ {c c' values}, Parser.Repeats (g.parser rules) c values c' →
      many.Accepts c (.list values) c' :=
    fun h => Parser.accepts_convert_iff.mpr ⟨_, h.accepts_many hp, rfl⟩
  refine ⟨fun e c' h => ?_, fun hreplies => ?_, congrFun (g.parse_sequence rules) c⟩
  · exact Parser.not_rejects_many (Parser.rejects_convert_iff.mp h)
  · obtain ⟨values, c', hrepeats⟩ := Parser.Repeats.exists_of_replies hp hreplies
    obtain ⟨stops, hfirst, rfl, hiteration⟩ := hrepeats.exists_stops hp
    have hlength : values.length ≤ byteLength c.ahead + 1 :=
      Nat.le_trans (hrepeats.length_le hp) (Nat.succ_le_succ (length_le_byteLength c.ahead))
    refine ⟨values, stops, hfirst, hiteration, hmany hrepeats, hlength, ?_⟩
    refine (hrepeats.fails_or_accepts hp).imp (fun hfails => ?_) fun ⟨a, hlast, haccepts⟩ => ?_
    · exact ⟨hfails, hmany (.stop hfails)⟩
    · exact ⟨a, hlast, haccepts, hmany (.still haccepts rfl)⟩

/-- Letters with blanks between them, the last of which can be missing: where it is, that is the last
value, and it can be had again. -/
theorem Grammar.many_iterates_letters :
    let g := Grammar.pick [.literal "a", .optional (.literal "b")]
    let c := (Cursor.ofString "é a\nb a c").past ['é']
    let item := (g.parser []).parse
    let many := ((Grammar.many g).parser []).parse
    let values := [.str "a", .str "b", .str "a", .null]
    let last := c.past " a\nb a".toList
    (∀ t, t <+: c.ahead → ∃ reply, item (c.past t) = .ok reply) ∧
      many.Accepts c (.list values) last ∧ many.Accepts last (.list [.null]) last ∧
      ∃ stops : ℕ → Cursor,
        stops 0 = c ∧ stops 4 = last ∧ item.MaximalIteration values stops := by
  intro g c item many values last
  have hreplies : ∀ t, t <+: c.ahead → ∃ reply, item (c.past t) = .ok reply := by
    have hall : ∀ t ∈ c.ahead.inits, (item (c.past t)).isOk = true := by decide +kernel
    exact fun t ht => exists_eq_ok_of_isOk (hall t ((List.mem_inits t c.ahead).mpr ht))
  have haccepts : many.Accepts c (.list values) last := ⟨0, by decide +kernel⟩
  have hagain : many.Accepts last (.list [.null]) last := ⟨0, by decide +kernel⟩
  obtain ⟨found, stops, hfirst, hiteration, hfound, -⟩ :=
    (Grammar.many_iterates [] g c).2.1 hreplies
  -- there is only one outcome
  obtain ⟨hvalues, hlast⟩ := hfound.unique haccepts
  obtain rfl := Value.list.inj hvalues
  exact ⟨hreplies, haccepts, hagain, stops, hfirst, hlast, hiteration⟩

end Parlance
