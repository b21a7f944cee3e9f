import Parlance.Proofs.Repetition
import Parlance.Proofs.Session
import Parlance.Proofs.Terminal

/-!
# Spans

`spanned` goes past the blanks that its grammar skips by itself and attempts the grammar from there,
so that the span begins behind them. It answers as the grammar does (`Grammar.parse_spanned`), and
the span of a value covers what was read of the text, up to such blanks (`Span.IsOf`). One spanned
grammar after another, in a row or repeated, gives spans one behind the other (`Span.InOrder`).
-/

namespace Parlance

/-! ## Slices -/

/-- A text is cut where the bytes of its first part end. -/
lemma splitBytes?_append (front back : List Char) :
    splitBytes? (byteLength front) (front ++ back) = some (front, back) := by
  induction front with
  | nil =>
    rw [byteLength, List.nil_append]
    unfold splitBytes?
    rfl
  | cons c front ih =>
    -- a symbol is not empty, so the number of bytes to cut off is not zero
    have hc : 0 < c.utf8Size := c.utf8Size_pos
    obtain ⟨n, hn⟩ : ∃ n, byteLength (c :: front) = n + 1 :=
      Nat.exists_eq_succ_of_ne_zero (by rw [byteLength]; omega)
    have hleft : n + 1 - c.utf8Size = byteLength front := by
      rw [← hn, byteLength, Nat.add_sub_cancel_left]
    have hle : c.utf8Size ≤ n + 1 := by
      rw [← hn, byteLength]
      exact Nat.le_add_right _ _
    rw [hn, List.cons_append, splitBytes?, if_pos hle, hleft, ih]
    rfl

namespace Span

/-- Between two cuts of a text, the slice is what stands between them. -/
lemma slice_of_eq {text : String} {front covered back : List Char}
    (h : text.toList = front ++ covered ++ back) :
    (Span.mk (byteLength front) (byteLength (front ++ covered))).slice text
      = String.ofList covered := by
  have hlength : (Span.mk (byteLength front) (byteLength (front ++ covered))).length
      = byteLength covered := by
    rw [length, byteLength_append, Nat.add_sub_cancel_left]
  have hle : byteLength front ≤ byteLength (front ++ covered) := by
    rw [byteLength_append]
    exact Nat.le_add_right _ _
  unfold slice
  rw [if_pos hle, hlength, h, List.append_assoc, splitBytes?_append]
  dsimp only
  rw [splitBytes?_append]

/-! ## The span of a value -/

/-- What a span says of a value that was read from `c` up to `c'`. It covers the text between the
cursors but for blanks in front, and there are none unless `skips` says that they are passed over. -/
structure IsOf (s : Span) (text : String) (skips : Bool) (c c' : Cursor) : Prop where
  le_start : c.offset ≤ s.start
  start_le_stop : s.start ≤ s.stop
  stop_eq : s.stop = c'.offset
  cuts : ∃ front blanks covered back, text.toList = front ++ blanks ++ covered ++ back
    ∧ byteLength front = c.offset
    ∧ byteLength (front ++ blanks) = s.start
    ∧ byteLength (front ++ blanks ++ covered) = s.stop
    ∧ Blank blanks ∧ (skips = false → blanks = [])
    ∧ s.slice text = String.ofList covered

/-- Spans that lie between two offsets, one behind the other. -/
structure InOrder (first last : ℕ) (spans : List Span) : Prop where
  inside : ∀ s ∈ spans, first ≤ s.start ∧ s.start ≤ s.stop ∧ s.stop ≤ last
  apart : spans.Pairwise fun s t => s.stop ≤ t.start

lemma inOrder_nil (first last : ℕ) : InOrder first last [] :=
  ⟨List.forall_mem_nil _, List.Pairwise.nil⟩

/-- A span in front of spans that begin where it stops. -/
lemma InOrder.cons {s : Span} {first middle last : ℕ} {spans : List Span}
    (h : InOrder middle last spans) (hfirst : first ≤ s.start) (hs : s.start ≤ s.stop)
    (hstop : s.stop = middle) (hlast : middle ≤ last) : InOrder first last (s :: spans) where
  inside := by
    refine List.forall_mem_cons.mpr ⟨⟨hfirst, hs, by omega⟩, fun t ht => ?_⟩
    obtain ⟨hstart, htt, htlast⟩ := h.inside t ht
    exact ⟨by omega, htt, htlast⟩
  apart := by
    refine List.pairwise_cons.mpr ⟨fun t ht => ?_, h.apart⟩
    obtain ⟨hstart, -, -⟩ := h.inside t ht
    omega

end Span

/-! ## Spanned grammars -/

/-- A reply with the span of its value, which begins at `start`. -/
def Reply.withSpan (start : ℕ) (reply : Reply Value) : Reply Value :=
  { reply with
    result := reply.result.map fun v => Value.ofSpanned (v, ⟨start, reply.cursor.offset⟩) }

namespace Grammar

variable {rules : Rules} {c c' : Cursor}

/-- A spanned grammar answers as the grammar does, with a span that begins where the grammar is
attempted. -/
lemma parse_spanned (rules : Rules) (g : Grammar) (c : Cursor) :
    ((spanned g).parser rules).parse c
      = ((g.parser rules).parse c).map (·.withSpan ((g.parser rules).approach c).offset) := by
  show ((Parser.spanned (g.parser rules)).convert Value.ofSpanned).parse c = _
  rw [Parser.parse_convert]
  show (((Parse.modify (g.parser rules).approach >>= fun _ => Parse.get >>= fun before =>
      (g.parser rules).attempt >>= fun value => Parse.get >>= fun after =>
        pure (value, Span.mk before.offset after.offset)) c).map _) = _
  have hmodify : Parse.modify (g.parser rules).approach c
      = .ok ⟨.ok (), (g.parser rules).approach c, 0⟩ := rfl
  unfold Parser.parse
  rw [Parse.bind_apply, hmodify]
  dsimp only
  rw [Parse.get_bind_apply, Parse.bind_apply]
  rcases (g.parser rules).attempt ((g.parser rules).approach c) with fault | ⟨e | v, c', n⟩
  · rfl
  · simp [Except.map, Reply.withSpan]
  · simp [Except.map, Reply.withSpan, Parse.get_bind_apply, Parse.pure_apply]

/-- A grammar reads blanks that it skips by itself, and then what it attempts to read. -/
lemma exists_cut_of_accepts {g : Grammar} {v : Value}
    (h : (g.parser rules).parse.Accepts c v c') :
    ∃ blanks covered rest, Blank blanks ∧ ((g.parser rules).skipsBlank = false → blanks = [])
      ∧ c.ahead = blanks ++ covered ++ rest
      ∧ (g.parser rules).approach c = c.past blanks ∧ c' = c.past (blanks ++ covered) := by
  have hcut : ∃ blanks, Blank blanks ∧ ((g.parser rules).skipsBlank = false → blanks = [])
      ∧ blanks <+: c.ahead ∧ (g.parser rules).approach c = c.past blanks := by
    unfold Parser.approach
    cases hskips : (g.parser rules).skipsBlank with
    | false => exact ⟨[], blank_nil, fun _ => rfl, List.nil_prefix, rfl⟩
    | true =>
      obtain ⟨blanks, hblanks, hahead, hskip⟩ := c.exists_blank_skipBlank_eq
      exact ⟨blanks, hblanks, fun h => absurd h.symm Bool.false_ne_true, hahead, hskip⟩
  obtain ⟨blanks, hblanks, hnone, hahead, happroach⟩ := hcut
  -- the attempt begins behind the blanks, and reads from there
  have hattempt : (g.parser rules).attempt.Accepts ((g.parser rules).approach c) v c' := h
  obtain ⟨covered, hcovered, hc'⟩ := (g.orderly_attempt rules).exists_past_of_accepts hattempt
  rw [happroach] at hcovered hc'
  rw [Cursor.past_past] at hc'
  obtain ⟨rest, hrest⟩ := Cursor.append_prefix_ahead hahead hcovered
  exact ⟨blanks, covered, rest, hblanks, hnone, hrest.symm, happroach, hc'⟩

/-- The offsets of a spanned value are in order. -/
lemma offsets_of_accepts {g : Grammar} {v : Value} (h : (g.parser rules).parse.Accepts c v c') :
    c.offset ≤ ((g.parser rules).approach c).offset
      ∧ ((g.parser rules).approach c).offset ≤ c'.offset := by
  obtain ⟨blanks, covered, rest, -, -, -, happroach, rfl⟩ := exists_cut_of_accepts h
  rw [happroach, Cursor.offset_past, Cursor.offset_past, byteLength_append]
  omega

/-- What a spanned grammar reads is a value of the grammar with a span up to where it ends. -/
lemma exists_of_accepts_spanned {g : Grammar} {w : Value}
    (h : ((spanned g).parser rules).parse.Accepts c w c') :
    ∃ v s, w = Value.ofSpanned (v, s) ∧ c.offset ≤ s.start ∧ s.start ≤ s.stop
      ∧ s.stop = c'.offset := by
  obtain ⟨n, hn⟩ := h
  rw [parse_spanned] at hn
  rcases hg : (g.parser rules).parse c with fault | ⟨e | v, c₁, m⟩
  · simp [hg, Except.map] at hn
  · simp [hg, Except.map, Reply.withSpan] at hn
  · simp only [hg, Except.map, Reply.withSpan, Except.ok.injEq, Reply.mk.injEq] at hn
    obtain ⟨rfl, rfl, -⟩ := hn
    obtain ⟨hbefore, hafter⟩ := offsets_of_accepts ⟨m, hg⟩
    exact ⟨v, _, rfl, hbefore, hafter, rfl⟩

/-- The span of a value that was read from a place in a text. -/
lemma isOf_of_accepts {text : String} (hc : c.Sound text.toList) {g : Grammar} {v : Value}
    (h : (g.parser rules).parse.Accepts c v c') :
    (Span.mk ((g.parser rules).approach c).offset c'.offset).IsOf text
      (g.parser rules).skipsBlank c c' := by
  have hoffsets := offsets_of_accepts h
  obtain ⟨blanks, covered, rest, hblanks, hnone, hahead, happroach, rfl⟩ := exists_cut_of_accepts h
  obtain ⟨front, back, htext, hplace⟩ := hc.place
  have hback : back = blanks ++ covered ++ rest := by
    rw [← hahead, Cursor.ahead, hplace]
    rfl
  have hfront : byteLength front = c.offset := (Cursor.offset_of_place_eq hplace).symm
  have hstart : byteLength (front ++ blanks) = ((g.parser rules).approach c).offset := by
    rw [happroach, Cursor.offset_past, byteLength_append, hfront]
  have hstop : byteLength (front ++ blanks ++ covered) = (c.past (blanks ++ covered)).offset := by
    rw [Cursor.offset_past, List.append_assoc, byteLength_append, hfront]
  have hcuts : text.toList = front ++ blanks ++ covered ++ rest := by
    rw [htext, hback]
    simp only [List.append_assoc]
  have hslice := Span.slice_of_eq hcuts
  rw [hstart, hstop] at hslice
  exact ⟨hoffsets.1, hoffsets.2, rfl,
    ⟨front, blanks, covered, rest, hcuts, hfront, hstart, hstop, hblanks, hnone, hslice⟩⟩

/-! ## Several spans -/

/-- Spanned grammars in a row, one after the other, have their spans in order. -/
lemma inOrder_of_accepts_parseAll {gs : List Grammar} {values : List Value}
    (h : (Parser.parseAll (parsersWith rules.run (gs.map spanned))).Accepts c values c') :
    c.offset ≤ c'.offset ∧ ∃ read : List (Value × Span), values = read.map Value.ofSpanned
      ∧ read.length = gs.length ∧ Span.InOrder c.offset c'.offset (read.map Prod.snd) := by
  induction gs generalizing c values with
  | nil =>
    obtain ⟨rfl, rfl⟩ := Parse.accepts_pure_iff.mp h
    exact ⟨Nat.le_refl _, [], rfl, rfl, Span.inOrder_nil _ _⟩
  | cons g gs ih =>
    obtain ⟨w, c₁, hfirst, h⟩ := Parse.accepts_bind_iff.mp h
    obtain ⟨others, c₂, hothers, h⟩ := Parse.accepts_bind_iff.mp h
    obtain ⟨rfl, rfl⟩ := Parse.accepts_pure_iff.mp h
    obtain ⟨v, s, rfl, hbefore, hspan, hstop⟩ := exists_of_accepts_spanned hfirst
    obtain ⟨hafter, read, rfl, hlength, horder⟩ := ih hothers
    exact ⟨by omega, (v, s) :: read, rfl, congrArg (· + 1) hlength,
      horder.cons hbefore hspan hstop hafter⟩

/-- The spans of a repeated grammar are in order. -/
lemma inOrder_of_repeats {g : Grammar} {values : List Value}
    (h : Parser.Repeats ((spanned g).parser rules) c values c') :
    c.offset ≤ c'.offset ∧ ∃ read : List (Value × Span), values = read.map Value.ofSpanned
      ∧ Span.InOrder c.offset c'.offset (read.map Prod.snd) := by
  induction h with
  | stop _ => exact ⟨Nat.le_refl _, [], rfl, Span.inOrder_nil _ _⟩
  | @still c c' w hread _ =>
    obtain ⟨v, s, rfl, hbefore, hspan, hstop⟩ := exists_of_accepts_spanned hread
    exact ⟨by omega, [(v, s)], rfl,
      (Span.inOrder_nil _ _).cons hbefore hspan hstop (Nat.le_refl _)⟩
  | @more c c₁ c' w ws hread _ _ ih =>
    obtain ⟨v, s, rfl, hbefore, hspan, hstop⟩ := exists_of_accepts_spanned hread
    obtain ⟨hafter, read, rfl, horder⟩ := ih
    exact ⟨by omega, (v, s) :: read, rfl, horder.cons hbefore hspan hstop hafter⟩

/-- A spanned grammar answers as the grammar does, from every cursor that can be reached: it fails
with the same error or reads the same value, leaves the same cursor, and its span covers what was
read, without blanks that the grammar skips by itself. Spanned grammars in a row and a repeated
spanned grammar give spans that lie in order in what was read. -/
theorem spans_cover (rules : Rules) {text : String} {operations : List Operation} {c : Cursor}
    (hrun : Run (.ofString text) operations c) :
    (∀ g : Grammar, ∃ start,
      ((spanned g).parser rules).parse c = ((g.parser rules).parse c).map (·.withSpan start)
        ∧ ∀ v c', (g.parser rules).parse.Accepts c v c' →
            (Span.mk start c'.offset).IsOf text (g.parser rules).skipsBlank c c')
      ∧ (∀ (gs : List Grammar) (v : Value) (c' : Cursor),
          ((few (gs.map spanned)).parser rules).parse.Accepts c v c' →
            ∃ read : List (Value × Span), v = .list (read.map Value.ofSpanned)
              ∧ read.length = gs.length ∧ Span.InOrder c.offset c'.offset (read.map Prod.snd))
      ∧ ∀ (g : Grammar) (v : Value) (c' : Cursor),
          ((many (spanned g)).parser rules).parse.Accepts c v c' →
            ∃ read : List (Value × Span), v = .list (read.map Value.ofSpanned)
              ∧ Span.InOrder c.offset c'.offset (read.map Prod.snd) := by
  have hc : c.Sound text.toList := hrun.sound (Cursor.sound_ofSymbols text.toList)
  refine ⟨fun g => ⟨_, parse_spanned rules g c, fun v c' h => isOf_of_accepts hc h⟩, ?_, ?_⟩
  · intro gs v c' h
    obtain ⟨values, hvalues, rfl⟩ := Parser.accepts_convert_iff.mp h
    obtain ⟨-, read, rfl, hlength, horder⟩ := inOrder_of_accepts_parseAll hvalues
    exact ⟨read, rfl, hlength, horder⟩
  · intro g v c' h
    obtain ⟨values, hvalues, rfl⟩ := Parser.accepts_convert_iff.mp h
    have hrepeats := (Parser.accepts_many_iff ((spanned g).orderly_parse rules)).mp hvalues
    obtain ⟨-, read, rfl, horder⟩ := inOrder_of_repeats hrepeats
    exact ⟨read, rfl, horder⟩

/-- Two words with blanks in front, read behind a symbol of two bytes. -/
theorem spans_cover_words :
    let c := (Cursor.ofString "é ab\n ab").past ['é']
    let last := c.past " ab\n ab".toList
    let words := Value.list
      [.list [.str "ab", .nat 3, .nat 5], .list [.str "ab", .nat 7, .nat 9]]
    Run (.ofString "é ab\n ab") [.advance] c
      ∧ ((many (spanned (.literal "ab"))).parser []).parse.Accepts c words last
      ∧ ∃ read : List (Value × Span), words = .list (read.map Value.ofSpanned)
        ∧ Span.InOrder 2 9 (read.map Prod.snd) := by
  intro c last words
  have hrun : Run (.ofString "é ab\n ab") [.advance] c := .cons [] rfl (.nil c)
  have haccepts : ((many (spanned (.literal "ab"))).parser []).parse.Accepts c words last :=
    ⟨0, by decide +kernel⟩
  obtain ⟨-, -, hmany⟩ := spans_cover [] hrun
  exact ⟨hrun, haccepts, hmany _ _ _ haccepts⟩

end Grammar

end Parlance
