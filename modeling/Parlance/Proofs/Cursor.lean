import Parlance.Cursor
import Mathlib.Tactic.Lemma
import Mathlib.Tactic.Common
import Mathlib.Logic.Function.Iterate

/-!
# Reading on from a cursor

All movement of a cursor is reading on, or going back to a place saved before. `Cursor.past` is
the cursor after a given text has been read; the operations of a cursor are restated with it:

* `advance_of_cons` reads one symbol;
* `skipBlank_eq` reads the longest run of blanks ahead;
* `advanceBytes_eq` reads whole symbols for a number of bytes (`takeBytes`).

Reading leaves the saved places and the depth of verbatim tokens alone.
-/

namespace Parlance

/-! ## Texts by number of bytes -/

/-- As many symbols from the front as make up `n` bytes. The last one may go beyond them. -/
def takeBytes : ℕ → List Char → List Char
  | 0, _ => []
  | _ + 1, [] => []
  | n + 1, c :: text => c :: takeBytes (n + 1 - c.utf8Size) text

@[simp] lemma takeBytes_zero (text : List Char) : takeBytes 0 text = [] := by
  rw [takeBytes]

@[simp] lemma takeBytes_nil (n : ℕ) : takeBytes n [] = [] := by
  cases n <;> rfl

lemma takeBytes_cons {n : ℕ} (c : Char) (text : List Char) (hn : n ≠ 0) :
    takeBytes n (c :: text) = c :: takeBytes (n - c.utf8Size) text := by
  obtain ⟨n, rfl⟩ := Nat.exists_eq_succ_of_ne_zero hn
  rw [takeBytes]

lemma takeBytes_prefix (n : ℕ) (text : List Char) : takeBytes n text <+: text := by
  induction text generalizing n with
  | nil => simp
  | cons c text ih =>
    by_cases hn : n = 0
    · rw [hn, takeBytes_zero]
      exact List.nil_prefix
    · rw [takeBytes_cons c text hn]
      exact List.cons_prefix_cons.mpr ⟨rfl, ih _⟩

/-- What is taken has the bytes asked for, or it is the whole text. -/
lemma min_le_byteLength_takeBytes (n : ℕ) (text : List Char) :
    min n (byteLength text) ≤ byteLength (takeBytes n text) := by
  -- the induction is on the text; a symbol that is taken makes the number that much smaller
  induction text generalizing n with
  | nil => simp
  | cons c text ih =>
    by_cases hzero : n = 0
    · simp [hzero]
    · have hrest := ih (n - c.utf8Size)
      rw [takeBytes_cons c text hzero, byteLength, byteLength]
      omega

/-- Only the last symbol that is taken may go beyond the bytes asked for. -/
lemma byteLength_lt_of_takeBytes_eq {n : ℕ} {text front : List Char} {c : Char}
    (h : takeBytes n text = front ++ [c]) : byteLength front < n := by
  induction front generalizing n text with
  | nil =>
    have hne : n ≠ 0 := by
      rintro rfl
      simp at h
    rw [byteLength]
    omega
  | cons x front ih =>
    cases text with
    | nil => simp at h
    | cons y text =>
      have hne : n ≠ 0 := by
        rintro rfl
        simp at h
      rw [takeBytes_cons y text hne, List.cons_append] at h
      obtain ⟨rfl, hrest⟩ := List.cons.inj h
      have hlt := ih hrest
      rw [byteLength]
      omega

/-- Bytes behind a text are taken from what follows it. -/
lemma takeBytes_append_add (t rest : List Char) (n : ℕ) :
    takeBytes (byteLength t + n) (t ++ rest) = t ++ takeBytes n rest := by
  induction t with
  | nil => rw [byteLength, Nat.zero_add, List.nil_append, List.nil_append]
  | cons c t ih =>
    have hpos : byteLength (c :: t) + n ≠ 0 := by
      have hc : 0 < c.utf8Size := c.utf8Size_pos
      rw [byteLength]
      omega
    rw [List.cons_append, takeBytes_cons c _ hpos, byteLength, Nat.add_assoc,
      Nat.add_sub_cancel_left, ih, List.cons_append]

/-- A text is exactly as many symbols as its bytes ask for. -/
lemma takeBytes_append (t rest : List Char) : takeBytes (byteLength t) (t ++ rest) = t := by
  have h := takeBytes_append_add t rest 0
  rwa [Nat.add_zero, takeBytes_zero, List.append_nil] at h

/-- No more than the whole text is taken. -/
lemma takeBytes_of_byteLength_le {n : ℕ} {text : List Char} (h : byteLength text ≤ n) :
    takeBytes n text = text := by
  have hall := takeBytes_append_add text [] (n - byteLength text)
  rwa [Nat.add_sub_cancel' h, takeBytes_nil, List.append_nil] at hall

/-- Up to a boundary between symbols, what stands in front of it is taken. -/
lemma takeBytes_of_byteLength_eq {n : ℕ} {front back : List Char}
    (h : byteLength front = min n (byteLength (front ++ back))) :
    takeBytes n (front ++ back) = front := by
  rcases Nat.le_total n (byteLength (front ++ back)) with hle | hle
  · rw [Nat.min_eq_left hle] at h
    rw [← h, takeBytes_append]
  · rw [Nat.min_eq_right hle, byteLength_append] at h
    have hback := length_le_byteLength back
    have hnil : back = [] := List.eq_nil_of_length_eq_zero (by omega)
    rw [takeBytes_of_byteLength_le hle, hnil, List.append_nil]

/-! ## Places -/

namespace Place

/-- The place after the symbols `t` have been read, if they stand ahead. -/
def past (p : Place) (t : List Char) : Place :=
  ⟨t.reverse ++ p.behind, p.ahead.drop t.length, t.foldl Position.step p.position⟩

@[simp] lemma past_nil (p : Place) : p.past [] = p := rfl

lemma past_past (p : Place) (s t : List Char) : (p.past s).past t = p.past (s ++ t) := by
  simp only [past, List.drop_drop, List.reverse_append, List.append_assoc, List.length_append,
    List.foldl_append]

/-- Reading on stops at the end of the symbols that are approved of. -/
lemma walk_eq (keep : Char → Bool) (behind : List Char) (position : Position)
    (ahead : List Char) :
    walk (fun _ c => keep c) behind position ahead
      = past ⟨behind, ahead, position⟩ (ahead.takeWhile keep) := by
  induction ahead generalizing behind position with
  | nil => rfl
  | cons c ahead ih =>
    rw [walk]
    by_cases hc : keep c
    · rw [if_pos hc, ih, List.takeWhile_cons_of_pos hc]
      simp [past]
    · rw [if_neg hc, List.takeWhile_cons_of_neg hc, past_nil]

lemma offset_foldl_step (p : Position) (t : List Char) :
    (t.foldl Position.step p).offset = p.offset + byteLength t := by
  induction t generalizing p with
  | nil => rfl
  | cons c t ih =>
    rw [List.foldl_cons, ih, Position.offset_step, byteLength, Nat.add_assoc]

/-- Reading on to an offset reads the symbols that it takes from here. -/
lemma walk_eq_takeBytes (behind : List Char) (position : Position) (target : ℕ)
    (ahead : List Char) :
    walk (fun q _ => q.offset < target) behind position ahead
      = past ⟨behind, ahead, position⟩ (takeBytes (target - position.offset) ahead) := by
  induction ahead generalizing behind position with
  | nil =>
    rw [takeBytes_nil]
    rfl
  | cons c ahead ih =>
    rw [walk]
    by_cases hlt : position.offset < target
    · -- the symbol is read, and what is left to read is that much shorter
      have hleft : target - (position.step c).offset
          = target - position.offset - c.utf8Size := by
        rw [Position.offset_step]
        omega
      have hpos : target - position.offset ≠ 0 := by omega
      rw [if_pos (decide_eq_true hlt), ih, hleft, takeBytes_cons c ahead hpos]
      simp [past]
    · have hzero : target - position.offset = 0 := by omega
      rw [if_neg (by simpa using hlt), hzero, takeBytes_zero, past_nil]

end Place

/-! ## Cursors -/

namespace Cursor

/-- The cursor after the symbols `t` have been read, if they stand ahead. -/
def past (c : Cursor) (t : List Char) : Cursor := { c with place := c.place.past t }

/-- The same cursor with other saved places. -/
def withSaved (c : Cursor) (saved : List Place) : Cursor := { c with saved := saved }

@[simp] lemma past_nil (c : Cursor) : c.past [] = c := rfl

lemma past_past (c : Cursor) (s t : List Char) : (c.past s).past t = c.past (s ++ t) := by
  simp only [past, Place.past_past]

@[simp] lemma saved_past (c : Cursor) (t : List Char) : (c.past t).saved = c.saved := rfl

@[simp] lemma verbatim_past (c : Cursor) (t : List Char) : (c.past t).verbatim = c.verbatim := rfl

@[simp] lemma isVerbatim_past (c : Cursor) (t : List Char) :
    (c.past t).isVerbatim = c.isVerbatim := rfl

lemma ahead_past (c : Cursor) (t : List Char) : (c.past t).ahead = c.ahead.drop t.length := rfl

/-- What stands behind the text that is read is ahead afterwards. -/
lemma ahead_past_of_eq {c : Cursor} {t rest : List Char} (h : c.ahead = t ++ rest) :
    (c.past t).ahead = rest := by
  rw [ahead_past, h, List.drop_left]

/-- Behind a text ahead, a text ahead makes it longer. -/
lemma append_prefix_ahead {c : Cursor} {s t : List Char} (hs : s <+: c.ahead)
    (ht : t <+: (c.past s).ahead) : s ++ t <+: c.ahead := by
  obtain ⟨rest, hrest⟩ := hs
  rw [ahead_past_of_eq hrest.symm] at ht
  rw [← hrest]
  exact (List.prefix_append_right_inj s).mpr ht

/-- What holds wherever a cursor may get to holds wherever it may get to from further on. -/
lemma forall_past_of_prefix (P : Cursor → Prop) {c : Cursor} {s : List Char}
    (h : ∀ t, t <+: c.ahead → P (c.past t)) (hs : s <+: c.ahead) :
    ∀ t, t <+: (c.past s).ahead → P ((c.past s).past t) := by
  intro t ht
  rw [past_past]
  exact h (s ++ t) (append_prefix_ahead hs ht)

@[simp] lemma offset_past (c : Cursor) (t : List Char) :
    (c.past t).offset = c.offset + byteLength t :=
  Place.offset_foldl_step c.place.position t

/-- The symbol behind a text that was read is its last one. -/
lemma lookbehind_one_past (c : Cursor) {t : List Char} (ht : t ≠ []) :
    (c.past t).lookbehind 1 = t.getLast? := by
  obtain ⟨x, back, hrev⟩ := List.exists_cons_of_ne_nil (List.reverse_ne_nil_iff.mpr ht)
  show (t.reverse ++ c.place.behind)[0]? = t.getLast?
  rw [← List.head?_reverse, hrev]
  rfl

@[simp] lemma withSaved_past (c : Cursor) (t : List Char) (saved : List Place) :
    (c.withSaved saved).past t = (c.past t).withSaved saved := rfl

@[simp] lemma withSaved_withSaved (c : Cursor) (s t : List Place) :
    (c.withSaved s).withSaved t = c.withSaved t := rfl

@[simp] lemma withSaved_saved (c : Cursor) : c.withSaved c.saved = c := rfl

@[simp] lemma place_withSaved (c : Cursor) (saved : List Place) :
    (c.withSaved saved).place = c.place := rfl

@[simp] lemma ahead_withSaved (c : Cursor) (saved : List Place) :
    (c.withSaved saved).ahead = c.ahead := rfl

@[simp] lemma verbatim_withSaved (c : Cursor) (saved : List Place) :
    (c.withSaved saved).verbatim = c.verbatim := rfl

lemma commit_eq (c : Cursor) : c.commit = c.withSaved (c.place :: c.saved) := rfl

/-! ### Operations -/

lemma advance_of_nil {c : Cursor} (h : c.ahead = []) : c.advance = (none, c) := by
  unfold advance
  rw [show c.place.ahead = [] from h]

lemma advance_of_cons {c : Cursor} {x : Char} {rest : List Char} (h : c.ahead = x :: rest) :
    c.advance = (some x, c.past [x]) := by
  have hplace : c.place.ahead = x :: rest := h
  unfold advance past Place.past
  simp only [hplace]
  rfl

/-- Advancing symbol by symbol reads them one after the other. -/
lemma iterate_advance {c : Cursor} {t rest : List Char} (h : c.ahead = t ++ rest) :
    (fun c : Cursor => c.advance.2)^[t.length] c = c.past t := by
  induction t generalizing c with
  | nil => rfl
  | cons x t ih =>
    have hrest : (c.past [x]).ahead = t ++ rest := ahead_past_of_eq h
    rw [List.length_cons, Function.iterate_succ_apply, advance_of_cons h, ih hrest, past_past]
    rfl

/-- Blanks are skipped to the last one, outside verbatim tokens. -/
lemma skipBlank_eq (c : Cursor) :
    c.skipBlank = if c.isVerbatim then c else c.past (c.ahead.takeWhile isBlank) := by
  unfold skipBlank past Place.skipBlank Place.advanceWhile
  rw [Place.walk_eq]
  rfl

lemma skipBlank_of_isVerbatim {c : Cursor} (h : c.isVerbatim = true) : c.skipBlank = c := by
  rw [skipBlank_eq, if_pos h]

/-- Whole symbols are read until there are enough bytes. -/
lemma advanceBytes_eq (c : Cursor) (n : ℕ) :
    c.advanceBytes n = c.past (takeBytes n c.ahead) := by
  have hwalk := Place.walk_eq_takeBytes c.place.behind c.place.position (c.offset + n)
    c.place.ahead
  rw [show c.offset + n - c.place.position.offset = n from Nat.add_sub_cancel_left _ _] at hwalk
  exact congrArg (fun p => { c with place := p }) hwalk

lemma advanceBytes_append {c : Cursor} {t rest : List Char} (h : c.ahead = t ++ rest) :
    c.advanceBytes (byteLength t) = c.past t := by
  rw [advanceBytes_eq, h, takeBytes_append]

lemma exists_advanceBytes_eq (c : Cursor) (n : ℕ) :
    ∃ t, t <+: c.ahead ∧ c.advanceBytes n = c.past t :=
  ⟨_, takeBytes_prefix n c.ahead, c.advanceBytes_eq n⟩

lemma exists_skipBlank_eq (c : Cursor) : ∃ t, t <+: c.ahead ∧ c.skipBlank = c.past t := by
  rw [skipBlank_eq]
  split
  · exact ⟨[], List.nil_prefix, rfl⟩
  · exact ⟨_, List.takeWhile_prefix _, rfl⟩

lemma exists_advance_eq (c : Cursor) : ∃ t, t <+: c.ahead ∧ c.advance.2 = c.past t := by
  cases hahead : c.ahead with
  | nil => exact ⟨[], List.nil_prefix, by rw [advance_of_nil hahead, past_nil]⟩
  | cons x rest =>
    exact ⟨[x], ⟨rest, rfl⟩, by rw [advance_of_cons hahead]⟩

end Cursor

end Parlance
