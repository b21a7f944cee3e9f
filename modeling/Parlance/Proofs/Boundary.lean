import Parlance.Proofs.Session
import Mathlib.Algebra.Group.Nat.Defs
import Mathlib.Order.Bounds.Basic

/-!
# Reading by number of bytes

Bytes that are asked for may end inside a symbol, and only whole symbols are read. What is read ends
at the first boundary between symbols that is not before the offset asked for, or at the end of the
text (`isLeast_takeBytes`). Therefore two numbers of bytes can be asked for one after the other
instead of both at once, if the first one ends at a boundary or reaches the end
(`Cursor.consume_consume_of_append`, `Cursor.consume_consume_of_le`).

The offset asked for is a sum that has to fit a machine word. Where it does not, nothing is read and
there is a fault, also if the text ends long before (`Run.consume_lands_on_boundary`,
`Run.consume_overflows`). A grammar that reads a number of bytes of its own goes symbol by symbol
and needs no such sum; where the sum fits, it does the same (`Action.run_consume`).
-/

namespace Parlance

/-! ## Boundaries -/

/-- `text` can be cut in two at `offset`, between two symbols or at one of its ends. -/
def IsBoundary (text : List Char) (offset : ℕ) : Prop :=
  ∃ front back, text = front ++ back ∧ byteLength front = offset

lemma byteLength_mono {s t : List Char} (h : s <+: t) : byteLength s ≤ byteLength t := by
  obtain ⟨rest, rfl⟩ := h
  rw [byteLength_append]
  exact Nat.le_add_right _ _

/-- A boundary that is `n` bytes further on is behind some symbols of `n` bytes. -/
lemma IsBoundary.exists_ahead {front back : List Char} {n : ℕ}
    (h : IsBoundary (front ++ back) (byteLength front + n)) :
    ∃ t rest, back = t ++ rest ∧ byteLength t = n := by
  obtain ⟨s, after, htext, hbytes⟩ := h
  rcases List.append_eq_append_iff.mp htext with ⟨t, rfl, rfl⟩ | ⟨t, rfl, rfl⟩
  · rw [byteLength_append] at hbytes
    exact ⟨t, after, rfl, by omega⟩
  · -- the boundary is not before the end of `front`, so it is there
    rw [byteLength_append] at hbytes
    exact ⟨[], back, rfl, by rw [byteLength]; omega⟩

/-- No boundary is inside a symbol. -/
lemma IsBoundary.le_of_lt {text front : List Char} {x : Char} {k : ℕ} (hk : IsBoundary text k)
    (hx : front ++ [x] <+: text) (hlt : k < byteLength (front ++ [x])) : k ≤ byteLength front := by
  obtain ⟨s, after, htext, rfl⟩ := hk
  have hs : s <+: text := ⟨after, htext.symm⟩
  rcases List.prefix_or_prefix_of_prefix hs hx with hbegins | hbegins
  · rcases List.prefix_concat_iff.mp hbegins with rfl | hshort
    · exact absurd hlt (Nat.lt_irrefl _)
    · exact byteLength_mono hshort
  · exact absurd hlt (Nat.not_lt.mpr (byteLength_mono hbegins))

/-- From the end of `front`, the symbols that `n` bytes ask for lead to the first boundary that is
as far away, or to the end of the text. -/
theorem isLeast_takeBytes (front back : List Char) (n : ℕ) :
    IsLeast {k | IsBoundary (front ++ back) k
        ∧ min (byteLength front + n) (byteLength (front ++ back)) ≤ k}
      (byteLength (front ++ takeBytes n back)) := by
  have htaken : front ++ takeBytes n back <+: front ++ back :=
    (List.prefix_append_right_inj front).mpr <| takeBytes_prefix n back
  constructor
  · obtain ⟨rest, hrest⟩ := htaken
    have hreached := min_le_byteLength_takeBytes n back
    refine ⟨⟨front ++ takeBytes n back, rest, hrest.symm, rfl⟩, ?_⟩
    rw [byteLength_append, byteLength_append]
    omega
  · rintro k ⟨hk, hmin⟩
    by_contra hlt
    have hlt : k < byteLength (front ++ takeBytes n back) := Nat.lt_of_not_le hlt
    have hend := byteLength_mono htaken
    cases hlast : takeBytes n back using List.reverseRecOn with
    | nil =>
      rw [hlast, List.append_nil] at hlt hend
      omega
    | append_singleton taken x =>
      -- in front of the last symbol the bytes asked for are not complete yet
      have hbefore := byteLength_lt_of_takeBytes_eq hlast
      rw [hlast, ← List.append_assoc] at htaken hlt hend
      have hle := hk.le_of_lt htaken hlt
      rw [byteLength_append] at hle
      omega

/-! ## Cursors -/

namespace Cursor

variable {c : Cursor} {a b n : ℕ} {t rest : List Char}

lemma consume_of_lt (h : c.offset + n < offsetBound) : c.consume n = .ok (c.advanceBytes n) :=
  if_pos h

lemma consume_of_le (h : offsetBound ≤ c.offset + n) : c.consume n = .error .offsetOverflow :=
  if_neg (Nat.not_lt.mpr h)

/-- At the end of the text nothing is read, however many bytes are asked for. -/
lemma advanceBytes_of_ahead_eq_nil (h : c.ahead = []) (n : ℕ) : c.advanceBytes n = c := by
  rw [advanceBytes_eq, h, takeBytes_nil, past_nil]

/-- As many bytes as the text has, or more, are the whole text. -/
lemma advanceBytes_of_byteLength_le (h : byteLength c.ahead ≤ n) :
    c.advanceBytes n = c.past c.ahead := by
  rw [advanceBytes_eq, takeBytes_of_byteLength_le h]

/-- Behind bytes that are whole symbols, more bytes can be asked for as if all were asked for at
once. -/
theorem consume_consume_of_append (hahead : c.ahead = t ++ rest) (b : ℕ) :
    (c.consume (byteLength t) >>= fun c₁ => c₁.consume b) = c.consume (byteLength t + b) := by
  have htwice : (c.past t).advanceBytes b = c.advanceBytes (byteLength t + b) := by
    rw [advanceBytes_eq, ahead_past_of_eq hahead, past_past, advanceBytes_eq, hahead,
      takeBytes_append_add]
  rcases Nat.lt_or_ge (c.offset + byteLength t) offsetBound with hlt | hge
  · rw [consume_of_lt hlt, advanceBytes_append hahead]
    show (c.past t).consume b = _
    unfold consume
    rw [offset_past, htwice, Nat.add_assoc]
  · rw [consume_of_le hge, consume_of_le (by omega)]
    rfl

/-- Behind the end of the text there is nothing to ask for. -/
theorem consume_consume_of_le (hend : byteLength c.ahead ≤ a)
    (hbound : c.offset + a + b < offsetBound) :
    (c.consume a >>= fun c₁ => c₁.consume b) = c.consume (a + b) := by
  rw [consume_of_lt (by omega), consume_of_lt (by omega), advanceBytes_of_byteLength_le hend,
    advanceBytes_of_byteLength_le (by omega)]
  have hnil : (c.past c.ahead).ahead = [] := ahead_past_of_eq (List.append_nil c.ahead).symm
  show (c.past c.ahead).consume b = _
  rw [consume_of_lt (by rw [offset_past]; omega), advanceBytes_of_ahead_eq_nil hnil]

end Cursor

/-- Where the offset asked for fits, a grammar reads a number of bytes as a cursor does. -/
theorem Action.run_consume {c : Cursor} {n : ℕ} (h : c.offset + n < Cursor.offsetBound) :
    (Action.consume n).run c =
      (c.consume n).map fun c' => ⟨.ok (.nat c'.offset), c', 0⟩ := by
  rw [Cursor.consume_of_lt h]
  rfl

/-! ## Sessions -/

/-- Whatever has been done to a cursor, reading a number of bytes leads to the first boundary of the
text that is not before the offset asked for, or to its end. The cursor is the one that advancing
symbol by symbol leads to there, with its saved places and its depth of verbatim tokens. Only if the
offset asked for does not fit a machine word there is a fault. Two numbers in a row are the same as
their sum if the first one leads just to a boundary, or to the end by an offset that still leaves
room for the second. -/
theorem Run.consume_lands_on_boundary {text : String} {operations : List Operation} {c : Cursor}
    (h : Run (.ofString text) operations c) :
    (∀ n, c.offset + n < 2 ^ 64 → ∃ c', c.consume n = .ok c' ∧
      IsLeast {k | IsBoundary text.toList k ∧ min (c.offset + n) (byteLength text.toList) ≤ k}
        c'.offset ∧
      (∃ steps, c' = (fun c : Cursor => c.advance.2)^[steps] c) ∧
      c'.saved = c.saved ∧ c'.verbatim = c.verbatim) ∧
    (∀ n, 2 ^ 64 ≤ c.offset + n → c.consume n = .error .offsetOverflow) ∧
    ∀ a b, IsBoundary text.toList (c.offset + a) ∨
        (byteLength text.toList ≤ c.offset + a ∧ c.offset + a + b < 2 ^ 64) →
      (c.consume a >>= fun c₁ => c₁.consume b) = c.consume (a + b) := by
  obtain ⟨front, back, htext, hplace⟩ := (h.sound (Cursor.sound_ofSymbols text.toList)).place
  have hoffset : c.offset = byteLength front := Cursor.offset_of_place_eq hplace
  have hahead : c.ahead = back := congrArg Place.ahead hplace
  refine ⟨fun n hbound => ?_, fun n hbound => Cursor.consume_of_le hbound, fun a b hstop => ?_⟩
  · obtain ⟨rest, hrest⟩ := takeBytes_prefix n back
    refine ⟨c.past (takeBytes n back), ?_, ?_, ⟨(takeBytes n back).length, ?_⟩, rfl, rfl⟩
    · rw [Cursor.consume_of_lt hbound, Cursor.advanceBytes_eq, hahead]
    · rw [Cursor.offset_past, hoffset, ← byteLength_append, htext]
      exact isLeast_takeBytes front back n
    · rw [Cursor.iterate_advance (hahead.trans hrest.symm)]
  · rcases hstop with hboundary | ⟨hend, hbound⟩
    · rw [htext, hoffset] at hboundary
      obtain ⟨t, rest, rfl, rfl⟩ := hboundary.exists_ahead
      exact Cursor.consume_consume_of_append hahead b
    · rw [htext, hoffset, byteLength_append] at hend
      exact Cursor.consume_consume_of_le (by rw [hahead]; omega) hbound

/-- Three bytes that end inside a symbol, at once and in two parts. -/
theorem Run.consume_lands_on_boundary_inside :
    let c := (Cursor.ofString "aé😀b").past ['a']
    Run (.ofString "aé😀b") [.advance] c ∧ c.offset + 3 < 2 ^ 64 ∧
      c.consume 3 = .ok (c.past ['é', '😀']) ∧
      IsLeast {k | IsBoundary "aé😀b".toList k
        ∧ min (c.offset + 3) (byteLength "aé😀b".toList) ≤ k} 7 ∧
      IsBoundary "aé😀b".toList (c.offset + 2) ∧
      (c.consume 2 >>= fun c₁ => c₁.consume 1) = c.consume 3 := by
  intro c
  have hrun : Run (.ofString "aé😀b") [.advance] c := .cons [] rfl (.nil c)
  have hbound : c.offset + 3 < 2 ^ 64 := by decide +kernel
  have hconsume : c.consume 3 = .ok (c.past ['é', '😀']) := by decide +kernel
  have hboundary : IsBoundary "aé😀b".toList (c.offset + 2) := ⟨['a', 'é'], ['😀', 'b'], rfl, rfl⟩
  obtain ⟨hreads, -, hsum⟩ := hrun.consume_lands_on_boundary
  obtain ⟨c', hc', hleast, -⟩ := hreads 3 hbound
  obtain rfl := Except.ok.inj (hconsume.symm.trans hc')
  exact ⟨hrun, hbound, hconsume, hleast, hboundary, hsum 2 1 (Or.inl hboundary)⟩

/-- Behind the first symbol, the largest number of bytes that fits a machine word is too large to be
asked for, although the text has only one more symbol. -/
theorem Run.consume_overflows :
    let c := (Cursor.ofString "ab").past ['a']
    let n := 0xFFFFFFFFFFFFFFFF
    Run (.ofString "ab") [.advance] c ∧ n < 2 ^ 64 ∧ c.consume n = .error .offsetOverflow ∧
      ∀ c', c.consume n ≠ .ok c' := by
  intro c n
  have hoverflow : c.consume n = .error .offsetOverflow := by decide +kernel
  refine ⟨.cons [] rfl (.nil c), by decide, hoverflow, fun c' hc' => ?_⟩
  rw [hoverflow] at hc'
  cases hc'

end Parlance
