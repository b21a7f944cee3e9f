import Parlance.Parser.Terminal
import Parlance.Proofs.Outcome
import Mathlib.Data.List.TakeWhile

/-!
# What symbol parsers read

A text ahead of the cursor falls into the blanks it begins with and what comes after them. With
these two parts each parser of symbols is settled by what is ahead: a literal succeeds exactly if
its text is a prefix there, a range if the next symbol lies in it, and the rest always.
-/

namespace Parlance

/-! ## Runs of symbols -/

section Runs

variable {kind : Char → Bool} {text run : List Char}

/-- `run` is the longest beginning of `text` that has symbols of one kind only. -/
structure LongestRun (kind : Char → Bool) (text run : List Char) : Prop where
  begins : run <+: text
  all : ∀ x ∈ run, kind x = true
  longest : ∀ t, t <+: text → (∀ x ∈ t, kind x = true) → t.length ≤ run.length

/-- A beginning that has symbols of the kind only goes no further than these do. -/
lemma prefix_takeWhile {t : List Char} (ht : t <+: text) (hkind : ∀ x ∈ t, kind x = true) :
    t <+: text.takeWhile kind := by
  obtain ⟨rest, rfl⟩ := ht
  rw [List.takeWhile_append_of_pos hkind]
  exact List.prefix_append t _

lemma longestRun_takeWhile (kind : Char → Bool) (text : List Char) :
    LongestRun kind text (text.takeWhile kind) where
  begins := List.takeWhile_prefix kind
  all _ hx := List.mem_takeWhile_imp hx
  longest _ ht hkind := (prefix_takeWhile ht hkind).length_le

/-- There is no other longest run. -/
lemma longestRun_iff : LongestRun kind text run ↔ run = text.takeWhile kind := by
  constructor
  · intro h
    have htakeWhile := longestRun_takeWhile kind text
    have hlength := h.longest _ htakeWhile.begins htakeWhile.all
    exact (prefix_takeWhile h.begins h.all).eq_of_length_le hlength
  · rintro rfl
    exact longestRun_takeWhile kind text

/-- A run has no symbol where the first one is of another kind, or missing. -/
lemma takeWhile_eq_nil_iff_head? :
    text.takeWhile kind = [] ↔ ∀ x ∈ text.head?, kind x = false := by
  cases text with
  | nil => simp
  | cons x text => cases hx : kind x <;> simp [hx]

/-- A run has symbols where the first one is of the kind. -/
lemma takeWhile_ne_nil_iff_head? :
    text.takeWhile kind ≠ [] ↔ ∃ x ∈ text.head?, kind x = true := by
  rw [Ne, takeWhile_eq_nil_iff_head?]
  simp

end Runs

/-! ## Leading blanks -/

/-- A text of blanks only. -/
def Blank (text : List Char) : Prop := ∀ x ∈ text, isBlank x = true

instance (text : List Char) : Decidable (Blank text) :=
  List.decidableBAll (fun x => isBlank x = true) text

/-- Whether `text` has a first symbol and that symbol is blank. -/
def startsBlank : List Char → Bool
  | [] => false
  | x :: _ => isBlank x

lemma blank_nil : Blank [] := List.forall_mem_nil _

lemma blank_takeWhile (text : List Char) : Blank (text.takeWhile isBlank) :=
  fun _ hx => List.mem_takeWhile_imp hx

lemma startsBlank_dropWhile (text : List Char) : startsBlank (text.dropWhile isBlank) = false := by
  have hhead := List.head?_dropWhile_not isBlank text
  cases hrest : text.dropWhile isBlank with
  | nil => rfl
  | cons x rest =>
    rw [hrest] at hhead
    simpa [startsBlank] using hhead

lemma takeWhile_isBlank_eq_nil_iff {text : List Char} :
    text.takeWhile isBlank = [] ↔ startsBlank text = false := by
  cases text with
  | nil => exact iff_of_true rfl rfl
  | cons x rest => cases hx : isBlank x <;> simp [startsBlank, hx]

/-- Blanks in front of a text that does not begin with one are all the blanks it begins with. -/
lemma takeWhile_isBlank_append {blanks text : List Char} (hblanks : Blank blanks)
    (htext : startsBlank text = false) : (blanks ++ text).takeWhile isBlank = blanks := by
  rw [List.takeWhile_append_of_pos hblanks, takeWhile_isBlank_eq_nil_iff.mpr htext,
    List.append_nil]

lemma dropWhile_isBlank_append {blanks text : List Char} (hblanks : Blank blanks)
    (htext : startsBlank text = false) : (blanks ++ text).dropWhile isBlank = text := by
  have h := List.takeWhile_append_dropWhile (p := isBlank) (l := blanks ++ text)
  rw [takeWhile_isBlank_append hblanks htext] at h
  exact List.append_cancel_left h

lemma startsBlank_append {blanks : List Char} (hblanks : Blank blanks) (hne : blanks ≠ [])
    (text : List Char) : startsBlank (blanks ++ text) = true := by
  cases blanks with
  | nil => exact absurd rfl hne
  | cons x blanks => exact hblanks x List.mem_cons_self

lemma takeWhile_isBlank_ne_nil {text : List Char} (h : startsBlank text = true) :
    text.takeWhile isBlank ≠ [] := by
  rw [Ne, takeWhile_isBlank_eq_nil_iff, h]
  exact Bool.noConfusion

lemma startsBlank_eq_false_of_startsSolid {text : List Char} (h : startsSolid text = true) :
    startsBlank text = false := by
  cases text with
  | nil => rfl
  | cons x rest => simpa [startsSolid, startsBlank] using h

namespace Cursor

lemma isVerbatim_enterVerbatim (c : Cursor) : c.enterVerbatim.isVerbatim = true :=
  decide_eq_true (Nat.succ_pos c.verbatim)

/-- Without a blank ahead there is nothing to skip. -/
lemma skipBlank_of_not_startsBlank {c : Cursor} (h : startsBlank c.ahead = false) :
    c.skipBlank = c := by
  rw [skipBlank_eq, takeWhile_isBlank_eq_nil_iff.mpr h, past_nil, ite_self]

/-- All the blanks in front of a text that does not begin with one are skipped. -/
lemma skipBlank_of_append {c : Cursor} (hverbatim : c.isVerbatim = false) {blanks text : List Char}
    (hblanks : Blank blanks) (htext : startsBlank text = false)
    (hahead : c.ahead = blanks ++ text) :
    c.skipBlank = c.past blanks := by
  rw [skipBlank_eq, hverbatim, hahead, takeWhile_isBlank_append hblanks htext]
  rfl

/-- Outside a verbatim token all the blanks ahead are skipped. -/
lemma ahead_skipBlank {c : Cursor} (hverbatim : c.isVerbatim = false) :
    c.skipBlank.ahead = c.ahead.dropWhile isBlank := by
  have hskip : c.skipBlank = c.past (c.ahead.takeWhile isBlank) := by
    rw [skipBlank_eq, hverbatim]
    rfl
  rw [hskip]
  exact ahead_past_of_eq List.takeWhile_append_dropWhile.symm

/-- Behind skipped blanks there is nothing more to skip. -/
lemma skipBlank_skipBlank (c : Cursor) : c.skipBlank.skipBlank = c.skipBlank := by
  cases hverbatim : c.isVerbatim with
  | true => rw [skipBlank_of_isVerbatim hverbatim, skipBlank_of_isVerbatim hverbatim]
  | false =>
    apply skipBlank_of_not_startsBlank
    rw [ahead_skipBlank hverbatim]
    exact startsBlank_dropWhile c.ahead

/-- Blanks are skipped up to a text that does not begin with one, and inside a verbatim token there
have to be none. -/
lemma skipBlank_of_cut {c : Cursor} {blanks text : List Char} (hblanks : Blank blanks)
    (hverbatim : c.isVerbatim = true → blanks = []) (htext : startsBlank text = false)
    (hahead : c.ahead = blanks ++ text) : c.skipBlank = c.past blanks := by
  cases h : c.isVerbatim with
  | true => rw [skipBlank_of_isVerbatim h, hverbatim h, past_nil]
  | false => exact skipBlank_of_append h hblanks htext hahead

/-- What is ahead begins with the blanks that are skipped. -/
lemma exists_skipBlank_cut (c : Cursor) :
    ∃ blanks, Blank blanks ∧ (c.isVerbatim = true → blanks = [])
      ∧ c.ahead = blanks ++ c.skipBlank.ahead ∧ c.skipBlank = c.past blanks := by
  cases h : c.isVerbatim with
  | true => exact ⟨[], blank_nil, fun _ => rfl, by rw [skipBlank_of_isVerbatim h]; rfl,
      skipBlank_of_isVerbatim h⟩
  | false =>
    have hskip : c.skipBlank = c.past (c.ahead.takeWhile isBlank) := by
      rw [skipBlank_eq, h]
      rfl
    refine ⟨_, blank_takeWhile _, fun h => absurd h Bool.false_ne_true, ?_, hskip⟩
    rw [ahead_skipBlank h, List.takeWhile_append_dropWhile]

/-- Skipping reads blanks. -/
lemma exists_blank_skipBlank_eq (c : Cursor) :
    ∃ blanks, Blank blanks ∧ blanks <+: c.ahead ∧ c.skipBlank = c.past blanks := by
  rw [skipBlank_eq]
  split
  · exact ⟨[], blank_nil, List.nil_prefix, rfl⟩
  · exact ⟨_, blank_takeWhile _, List.takeWhile_prefix _, rfl⟩

end Cursor

namespace Parser

variable {α : Type} {c c' : Cursor}

lemma approach_of_not_startsBlank (p : Parser α) (h : startsBlank c.ahead = false) :
    p.approach c = c := by
  rw [approach, Cursor.skipBlank_of_not_startsBlank h, ite_self]

lemma approach_of_isVerbatim (p : Parser α) (h : c.isVerbatim = true) : p.approach c = c := by
  rw [approach, Cursor.skipBlank_of_isVerbatim h, ite_self]

lemma exists_blank_approach_eq (p : Parser α) (c : Cursor) :
    ∃ blanks, Blank blanks ∧ blanks <+: c.ahead ∧ p.approach c = c.past blanks := by
  rw [approach]
  split
  · exact c.exists_blank_skipBlank_eq
  · exact ⟨[], blank_nil, List.nil_prefix, rfl⟩

/-! ## Literals -/

/-- Blanks are skipped in front of a text that has something else to begin with. -/
lemma approach_literal {text : String} (h : startsSolid text.toList = true) (c : Cursor) :
    (literal text).approach c = c.skipBlank := if_pos h

/-- Symbols are matched one by one, so all of them stand ahead. -/
lemma accepts_matchSymbols_iff {text : String} {symbols : List Char} {u : Unit} :
    (matchSymbols text symbols).Accepts c u c' ↔ symbols <+: c.ahead ∧ c' = c.past symbols := by
  -- the induction is on the symbols still wanted, from the cursor that has read the others
  induction symbols generalizing c with
  | nil => simp [matchSymbols]
  | cons wanted symbols ih =>
    rw [matchSymbols, Parse.accepts_bind_iff]
    constructor
    · intro ⟨found, c₁, hadvance, h⟩
      obtain ⟨hfound, hc₁⟩ := hadvance.unique (Parse.accepts_advance c)
      cases hahead : c.ahead with
      | nil =>
        rw [Cursor.advance_of_nil hahead] at hfound
        rw [hfound, if_neg (by simp)] at h
        exact absurd h Parse.not_accepts_fail
      | cons x rest =>
        rw [Cursor.advance_of_cons hahead] at hfound hc₁
        subst hfound hc₁
        split at h
        · next heq =>
          obtain ⟨hbegins, rfl⟩ := ih.mp h
          rw [Option.some.injEq] at heq
          rw [Cursor.ahead_past_of_eq (t := [x]) hahead] at hbegins
          rw [heq]
          exact ⟨List.cons_prefix_cons.mpr ⟨rfl, hbegins⟩, c.past_past [wanted] symbols⟩
        · exact absurd h Parse.not_accepts_fail
    · intro ⟨⟨rest, hrest⟩, heq⟩
      have hahead : c.ahead = wanted :: (symbols ++ rest) := hrest.symm
      have hadvance := Parse.accepts_advance c
      rw [Cursor.advance_of_cons hahead] at hadvance
      refine ⟨some wanted, c.past [wanted], hadvance, ?_⟩
      rw [if_pos rfl]
      refine ih.mpr ⟨?_, ?_⟩
      · rw [Cursor.ahead_past_of_eq (t := [wanted]) hahead]
        exact List.prefix_append symbols rest
      · rw [heq, Cursor.past_past]
        rfl

lemma fails_matchSymbols_iff {text : String} {symbols : List Char} :
    (matchSymbols text symbols).Fails c ↔ ¬ symbols <+: c.ahead := by
  constructor
  · intro hfails hbegins
    have haccepts : (matchSymbols text symbols).Accepts c () (c.past symbols) :=
      accepts_matchSymbols_iff.mpr ⟨hbegins, rfl⟩
    exact haccepts.not_fails hfails
  · induction symbols generalizing c with
    | nil => exact fun h => absurd List.nil_prefix h
    | cons wanted symbols ih =>
      intro hnot
      rw [matchSymbols]
      apply (Parse.accepts_advance c).bind_fails
      cases hahead : c.ahead with
      | nil =>
        rw [Cursor.advance_of_nil hahead, if_neg (by simp)]
        exact Parse.fails_fail _ _
      | cons x rest =>
        rw [Cursor.advance_of_cons hahead]
        split
        · next heq =>
          rw [Option.some.injEq] at heq
          refine ih fun hbegins => hnot ?_
          rw [Cursor.ahead_past_of_eq (t := [x]) hahead] at hbegins
          rw [hahead]
          exact List.cons_prefix_cons.mpr ⟨heq.symm, hbegins⟩
        · exact Parse.fails_fail _ _

/-- A literal reads its own text, from where the blanks before it end. -/
theorem accepts_literal_iff {text value : String} :
    (literal text).parse.Accepts c value c' ↔
      value = text ∧ text.toList <+: ((literal text).approach c).ahead
        ∧ c' = ((literal text).approach c).past text.toList := by
  show Parse.Accepts (matchSymbols text text.toList >>= _) _ value c' ↔ _
  rw [Parse.accepts_bind_iff]
  constructor
  · intro ⟨u, c₁, hmatch, hpure⟩
    obtain ⟨rfl, rfl⟩ := Parse.accepts_pure_iff.mp hpure
    exact ⟨rfl, accepts_matchSymbols_iff.mp hmatch⟩
  · intro ⟨hvalue, hmatch⟩
    exact ⟨(), c', accepts_matchSymbols_iff.mpr hmatch, Parse.accepts_pure_iff.mpr ⟨hvalue, rfl⟩⟩

theorem fails_literal_iff {text : String} :
    (literal text).parse.Fails c ↔ ¬ text.toList <+: ((literal text).approach c).ahead := by
  constructor
  · intro hfails hbegins
    exact (accepts_literal_iff.mpr ⟨rfl, hbegins, rfl⟩).not_fails hfails
  · intro hnot
    exact (fails_matchSymbols_iff.mpr hnot).bind _

lemma accepts_literal_of_isVerbatim {text : String} (hverbatim : c.isVerbatim = true)
    {rest : List Char} (hahead : c.ahead = text.toList ++ rest) :
    (literal text).parse.Accepts c text (c.past text.toList) := by
  rw [accepts_literal_iff, approach_of_isVerbatim _ hverbatim, hahead]
  exact ⟨rfl, List.prefix_append _ _, rfl⟩

/-- What a literal reads is some blanks and its text. -/
lemma exists_blank_of_accepts_literal {text value : String}
    (h : (literal text).parse.Accepts c value c') :
    value = text ∧ ∃ blanks, Blank blanks ∧ blanks ++ text.toList <+: c.ahead
      ∧ c' = c.past (blanks ++ text.toList) := by
  obtain ⟨hvalue, ⟨rest, hrest⟩, rfl⟩ := accepts_literal_iff.mp h
  obtain ⟨blanks, hblanks, ⟨after, hafter⟩, happroach⟩ := (literal text).exists_blank_approach_eq c
  refine ⟨hvalue, blanks, hblanks, ⟨rest, ?_⟩, ?_⟩
  · rw [happroach, Cursor.ahead_past_of_eq hafter.symm] at hrest
    rw [List.append_assoc, hrest, hafter]
  · rw [happroach, Cursor.past_past]

/-! ## One symbol -/

/-- A range reads the next symbol, if that is one of its own. -/
theorem accepts_range_iff {low high found : Char} :
    (range low high).parse.Accepts c found c' ↔
      low ≤ found ∧ found ≤ high ∧ ∃ rest, ((range low high).approach c).ahead = found :: rest
        ∧ c' = ((range low high).approach c).past [found] := by
  show Parse.Accepts (Parse.advance >>= _) ((range low high).approach c) found c' ↔ _
  generalize (range low high).approach c = d
  rw [(Parse.accepts_advance d).bind_accepts_iff]
  cases hahead : d.ahead with
  | nil =>
    rw [Cursor.advance_of_nil hahead]
    refine iff_of_false Parse.not_accepts_fail fun ⟨_, _, rest, hnil, _⟩ => ?_
    cases hnil
  | cons x rest =>
    rw [Cursor.advance_of_cons hahead]
    dsimp only
    split
    · next hrange =>
      rw [Parse.accepts_pure_iff]
      constructor
      · rintro ⟨rfl, hc'⟩
        exact ⟨hrange.1, hrange.2, rest, rfl, hc'⟩
      · rintro ⟨_, _, _, heq, hc'⟩
        cases heq
        exact ⟨rfl, hc'⟩
    · next hrange =>
      refine iff_of_false Parse.not_accepts_fail fun ⟨hlow, hhigh, _, heq, _⟩ => ?_
      cases heq
      exact hrange ⟨hlow, hhigh⟩

/-- A single symbol is read if it is the next one. -/
theorem accepts_symbol_iff {wanted found : Char} (happroach : (symbol wanted).approach c = c) :
    (symbol wanted).parse.Accepts c found c' ↔
      found = wanted ∧ ∃ rest, c.ahead = wanted :: rest ∧ c' = c.past [wanted] := by
  rw [symbol, accepts_range_iff, show (range wanted wanted).approach c = c from happroach]
  constructor
  · -- the range has one symbol only
    intro ⟨hlow, hhigh, rest, hahead, hc'⟩
    obtain rfl := Char.le_antisymm hhigh hlow
    exact ⟨rfl, rest, hahead, hc'⟩
  · intro ⟨hfound, rest, hahead, hc'⟩
    subst hfound
    exact ⟨Char.le_refl found, Char.le_refl found, rest, hahead, hc'⟩

/-- Where another symbol is the next one, or none, a single symbol is not read. -/
lemma fails_symbol {wanted : Char} (happroach : (symbol wanted).approach c = c)
    (hahead : ∀ rest, c.ahead ≠ wanted :: rest) : (symbol wanted).parse.Fails c := by
  show Parse.Fails (Parse.advance >>= _) ((symbol wanted).approach c)
  rw [happroach]
  apply (Parse.accepts_advance c).bind_fails
  cases hnext : c.ahead with
  | nil =>
    rw [Cursor.advance_of_nil hnext]
    exact Parse.fails_fail _ _
  | cons x rest =>
    rw [Cursor.advance_of_cons hnext]
    dsimp only
    rw [if_neg fun hrange => ?_]
    · exact Parse.fails_fail _ _
    · obtain rfl := Char.le_antisymm hrange.2 hrange.1
      exact hahead rest hnext

/-- A range that does not read the next symbol has taken it nevertheless, and complains behind it.
At the end of the text there is none to take. -/
theorem rejects_range_iff {low high : Char} {e : ParseError} :
    (range low high).parse.Rejects c e c' ↔
      (∀ x rest, ((range low high).approach c).ahead = x :: rest → ¬ (low ≤ x ∧ x ≤ high))
        ∧ c' = ((range low high).approach c).past (((range low high).approach c).ahead.take 1)
        ∧ e = c'.unexpectedSymbol (rangeTag low high) := by
  show Parse.Rejects (Parse.advance >>= _) ((range low high).approach c) e c' ↔ _
  generalize (range low high).approach c = d
  rw [(Parse.accepts_advance d).bind_rejects_iff]
  cases hahead : d.ahead with
  | nil =>
    rw [Cursor.advance_of_nil hahead]
    dsimp only
    rw [Parse.rejects_fail_iff, List.take_nil, Cursor.past_nil]
    constructor
    · rintro ⟨rfl, rfl⟩
      exact ⟨fun x rest heq => absurd heq.symm (List.cons_ne_nil x rest), rfl, rfl⟩
    · rintro ⟨-, rfl, rfl⟩
      exact ⟨rfl, rfl⟩
  | cons x rest =>
    rw [Cursor.advance_of_cons hahead]
    dsimp only
    split
    · next hrange =>
      exact iff_of_false Parse.not_rejects_pure fun ⟨hnot, _⟩ => hnot x rest rfl hrange
    · next hrange =>
      rw [Parse.rejects_fail_iff, List.take_succ_cons, List.take_zero]
      constructor
      · rintro ⟨rfl, rfl⟩
        refine ⟨fun y text heq => ?_, rfl, rfl⟩
        obtain rfl := (List.cons.inj heq).1
        exact hrange
      · rintro ⟨-, rfl, rfl⟩
        exact ⟨rfl, rfl⟩

/-- At the end of the text a range complains about the symbol before it. -/
lemma rejects_range_at_end (low high : Char) (hahead : c.ahead = []) :
    (range low high).parse.Rejects c (c.unexpectedSymbol (rangeTag low high)) c := by
  have hend : startsBlank c.ahead = false := by
    rw [hahead]
    rfl
  rw [rejects_range_iff, approach_of_not_startsBlank _ hend, hahead]
  exact ⟨fun x rest heq => absurd heq.symm (List.cons_ne_nil x rest), rfl, rfl⟩

/-! ## All the rest -/

/-- The rest is everything ahead. -/
theorem accepts_rest (c : Cursor) : rest.parse.Accepts c c.tail (c.past c.ahead) := by
  show Parse.Accepts (Parse.get >>= _) c _ _
  rw [Parse.accepts_get_bind_iff]
  have hread : c.advanceBytes (byteLength c.ahead) = c.past c.ahead :=
    Cursor.advanceBytes_append (List.append_nil c.ahead).symm
  have hmodify := Parse.accepts_modify (·.advanceBytes (byteLength c.ahead)) c
  rw [hread] at hmodify
  exact hmodify.bind (Parse.accepts_pure_iff.mpr ⟨rfl, rfl⟩)

lemma ahead_past_ahead (c : Cursor) : (c.past c.ahead).ahead = [] :=
  Cursor.ahead_past_of_eq (List.append_nil c.ahead).symm

end Parser

end Parlance
