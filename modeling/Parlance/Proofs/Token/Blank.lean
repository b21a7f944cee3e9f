import Parlance.Proofs.Frame
import Parlance.Proofs.Repetition
import Parlance.Proofs.Terminal

/-!
# What blanks are read as

A choice between literals that stand where they are looked for takes the first one that is a prefix
of the text ahead. The blanks of a text are such choices: `skip` reads all the blanks ahead, and
`gap` does the same but fails if there is none. They reach the place that a cursor skips to by
itself outside of verbatim tokens (`skip_gap_read_skipped_blanks`).
-/

namespace Parlance

variable {c c' : Cursor}

/-! ## Choices between literals -/

namespace Parser

lemma orderly_literals (texts : List String) :
    ∀ p ∈ texts.map literal, p.parse.Orderly := by
  intro p hp
  obtain ⟨text, -, rfl⟩ := List.mem_map.mp hp
  exact Parse.hereditary_orderly.parse (Parse.hereditary_orderly.literal text)

/-- Literals with nothing to skip: the first one that is a prefix of the text ahead is taken. -/
theorem accepts_pick_literals_iff {texts : List String}
    (happroach : ∀ text ∈ texts, (literal text).approach c = c) {value : String} :
    (pick (texts.map literal)).parse.Accepts c value c' ↔
      texts.find? (fun text => text.toList.isPrefixOf c.ahead) = some value
        ∧ c' = c.past value.toList := by
  rw [accepts_pick_iff (orderly_literals texts), List.find?_eq_some_iff_append]
  constructor
  · intro ⟨before, p, after, heq, hfails, haccepts⟩
    obtain ⟨texts₁, texts₂, rfl, rfl, htail⟩ := List.map_eq_append_iff.mp heq
    obtain ⟨text, texts₃, rfl, rfl, rfl⟩ := List.map_eq_cons_iff.mp htail
    obtain ⟨rfl, hbegins, hc'⟩ := accepts_literal_iff.mp haccepts
    have hmem : value ∈ texts₁ ++ value :: texts₃ := List.mem_append_right _ List.mem_cons_self
    rw [happroach value hmem] at hbegins hc'
    refine ⟨⟨List.isPrefixOf_iff_prefix.mpr hbegins, texts₁, texts₃, rfl, ?_⟩, hc'⟩
    intro text htext
    have hnot := fails_literal_iff.mp (hfails (literal text) (List.mem_map_of_mem htext))
    rw [happroach text (List.mem_append_left _ htext)] at hnot
    simpa [← List.isPrefixOf_iff_prefix] using hnot
  · intro ⟨⟨hbegins, texts₁, texts₂, htexts, hnot⟩, hc'⟩
    subst htexts
    refine ⟨texts₁.map literal, literal value, texts₂.map literal, by simp, ?_, ?_⟩
    · intro p hp
      obtain ⟨text, htext, rfl⟩ := List.mem_map.mp hp
      rw [fails_literal_iff, happroach text (List.mem_append_left _ htext)]
      have := hnot text htext
      simpa [← List.isPrefixOf_iff_prefix] using this
    · have hmem : value ∈ texts₁ ++ value :: texts₂ := List.mem_append_right _ List.mem_cons_self
      rw [accepts_literal_iff, happroach value hmem]
      exact ⟨rfl, List.isPrefixOf_iff_prefix.mp hbegins, hc'⟩

lemma fails_pick_literals_iff {texts : List String}
    (happroach : ∀ text ∈ texts, (literal text).approach c = c) :
    (pick (texts.map literal)).parse.Fails c ↔
      texts.find? (fun text => text.toList.isPrefixOf c.ahead) = none := by
  rw [fails_pick_iff (orderly_literals texts), List.find?_eq_none]
  constructor
  · intro hfails text htext
    have hnot := fails_literal_iff.mp (hfails (literal text) (List.mem_map_of_mem htext))
    rwa [happroach text htext, ← List.isPrefixOf_iff_prefix] at hnot
  · intro hnone p hp
    obtain ⟨text, htext, rfl⟩ := List.mem_map.mp hp
    rw [fails_literal_iff, happroach text htext, ← List.isPrefixOf_iff_prefix]
    exact hnone text htext

end Parser

/-! ## Blanks -/

namespace Token

open Parlance.Parser

/-- The texts of one blank each. -/
def blanks : List String := [" ", "\t", "\r", "\n"]

lemma orderly_whitespace : whitespace.parse.Orderly :=
  Parse.hereditary_orderly.parse Parse.hereditary_orderly.whitespace

lemma approach_blank {text : String} (h : text ∈ blanks) : (literal text).approach c = c := by
  have hskips : ∀ text ∈ blanks, (literal text).skipsBlank = false := by decide
  rw [approach, hskips text h]
  rfl

/-- The first symbol of a text, if it is blank, is one of the blanks. -/
lemma find?_blanks (x : Char) (rest : List Char) :
    blanks.find? (fun text => text.toList.isPrefixOf (x :: rest))
      = if isBlank x then some (String.singleton x) else none := by
  by_cases hx : isBlank x = true
  · rw [if_pos hx]
    simp only [isBlank, Bool.or_eq_true, decide_eq_true_eq] at hx
    rcases hx with ((rfl | rfl) | rfl) | rfl <;> rfl
  · rw [if_neg hx, List.find?_eq_none]
    simp only [isBlank, Bool.or_eq_true, decide_eq_true_eq, not_or] at hx
    obtain ⟨⟨⟨hspace, htab⟩, hreturn⟩, hnewline⟩ := hx
    simp [blanks, Ne.symm hspace, Ne.symm htab, Ne.symm hreturn, Ne.symm hnewline]

lemma accepts_whitespace_iff {value : String} :
    whitespace.parse.Accepts c value c' ↔
      ∃ x rest, c.ahead = x :: rest ∧ isBlank x = true ∧ value = String.singleton x
        ∧ c' = c.past [x] := by
  rw [show whitespace = pick (blanks.map literal) from rfl,
    accepts_pick_literals_iff fun _ => approach_blank]
  constructor
  · intro ⟨hfind, hc'⟩
    cases hahead : c.ahead with
    | nil =>
      rw [hahead] at hfind
      cases hfind
    | cons x rest =>
      rw [hahead, find?_blanks] at hfind
      split at hfind
      · next hx =>
        rw [Option.some.injEq] at hfind
        subst hfind
        exact ⟨x, rest, rfl, hx, rfl, by simpa using hc'⟩
      · cases hfind
  · intro ⟨x, rest, hahead, hx, hvalue, hc'⟩
    rw [hahead, find?_blanks, if_pos hx, hvalue]
    exact ⟨rfl, by simpa using hc'⟩

lemma fails_whitespace_iff : whitespace.parse.Fails c ↔ startsBlank c.ahead = false := by
  rw [show whitespace = pick (blanks.map literal) from rfl,
    fails_pick_literals_iff fun _ => approach_blank]
  cases hahead : c.ahead with
  | nil => exact iff_of_true (by decide) rfl
  | cons x rest =>
    rw [find?_blanks, startsBlank]
    cases isBlank x <;> simp

/-- A repetition of blanks ends with the last of them. -/
lemma repeats_whitespace {text rest : List Char} (htext : Blank text)
    (hrest : startsBlank rest = false) (hahead : c.ahead = text ++ rest) :
    Repeats whitespace c (text.map String.singleton) (c.past text) := by
  -- each blank is one repetition, and the first symbol that is none ends them
  induction text generalizing c with
  | nil => exact .stop (fails_whitespace_iff.mpr (by rw [hahead]; exact hrest))
  | cons x text ih =>
    obtain ⟨hx, htext⟩ := List.forall_mem_cons.mp htext
    have hone : whitespace.parse.Accepts c (String.singleton x) (c.past [x]) :=
      accepts_whitespace_iff.mpr ⟨x, text ++ rest, hahead, hx, rfl, rfl⟩
    have hlater := ih htext (Cursor.ahead_past_of_eq (t := [x]) hahead)
    rw [Cursor.past_past] at hlater
    exact .more hone (offset_past_ne c (List.cons_ne_nil x [])) hlater

/-- All the blanks ahead are skipped. -/
theorem accepts_skip {text rest : List Char} (htext : Blank text)
    (hrest : startsBlank rest = false) (hahead : c.ahead = text ++ rest) :
    skip.parse.Accepts c (text.map String.singleton) (c.past text) :=
  (repeats_whitespace htext hrest hahead).accepts_many orderly_whitespace

/-- Skipping blanks always succeeds, and then there is none ahead. -/
lemma accepts_skip_iff {values : List String} :
    skip.parse.Accepts c values c' ↔
      values = (c.ahead.takeWhile isBlank).map String.singleton
        ∧ c' = c.past (c.ahead.takeWhile isBlank) := by
  have hskip := accepts_skip (blank_takeWhile c.ahead) (startsBlank_dropWhile c.ahead)
    List.takeWhile_append_dropWhile.symm
  constructor
  · exact fun h => h.unique hskip
  · intro ⟨hvalues, hc'⟩
    rwa [hvalues, hc']

/-- A gap is all the blanks ahead, and there is one at least. -/
theorem accepts_gap_iff {values : List String} :
    gap.parse.Accepts c values c' ↔
      startsBlank c.ahead = true ∧ values = (c.ahead.takeWhile isBlank).map String.singleton
        ∧ c' = c.past (c.ahead.takeWhile isBlank) := by
  show Parse.Accepts (whitespace.parse >>= _) c values c' ↔ _
  rw [Parse.accepts_bind_iff]
  -- the blanks after the first one are those that a repetition reads
  have hmore : ∀ x rest, c.ahead = x :: rest →
      (repeatAhead whitespace).Accepts (c.past [x]) ((rest.takeWhile isBlank).map String.singleton)
        (c.past (x :: rest.takeWhile isBlank)) := by
    intro x rest hahead
    have h := (repeats_whitespace (blank_takeWhile rest) (startsBlank_dropWhile rest)
      (c := c.past [x]) (by rw [Cursor.ahead_past_of_eq (t := [x]) hahead,
        List.takeWhile_append_dropWhile])).accepts_repeatAhead orderly_whitespace
    rwa [Cursor.past_past] at h
  constructor
  · intro ⟨first, c₁, hfirst, h⟩
    obtain ⟨x, rest, hahead, hx, rfl, rfl⟩ := accepts_whitespace_iff.mp hfirst
    obtain ⟨later, c₂, hlater, hpure⟩ := Parse.accepts_bind_iff.mp h
    obtain ⟨rfl, rfl⟩ := hlater.unique (hmore x rest hahead)
    obtain ⟨rfl, rfl⟩ := Parse.accepts_pure_iff.mp hpure
    rw [hahead, List.takeWhile_cons_of_pos hx]
    exact ⟨hx, rfl, rfl⟩
  · intro ⟨hstarts, hvalues, hc'⟩
    cases hahead : c.ahead with
    | nil => simp [hahead, startsBlank] at hstarts
    | cons x rest =>
      have hx : isBlank x = true := by simpa [hahead, startsBlank] using hstarts
      rw [hahead, List.takeWhile_cons_of_pos hx] at hvalues hc'
      refine ⟨_, _, accepts_whitespace_iff.mpr ⟨x, rest, hahead, hx, rfl, rfl⟩, ?_⟩
      exact (hmore x rest hahead).bind (Parse.accepts_pure_iff.mpr ⟨hvalues, hc'⟩)

lemma fails_gap_iff : gap.parse.Fails c ↔ startsBlank c.ahead = false := by
  rw [← fails_whitespace_iff]
  exact exists_congr fun _ => exists_congr fun _ => rejects_sequence_iff

/-! ## Blanks that are skipped -/

/-- Behind all the blanks ahead there is nothing to skip, inside a verbatim token or not. -/
lemma skipBlank_past_takeWhile (c : Cursor) :
    (c.past (c.ahead.takeWhile isBlank)).skipBlank = c.past (c.ahead.takeWhile isBlank) := by
  apply Cursor.skipBlank_of_not_startsBlank
  rw [Cursor.ahead_past_of_eq List.takeWhile_append_dropWhile.symm]
  exact startsBlank_dropWhile c.ahead

/-- Blanks are read as text wherever the cursor is, inside a verbatim token too. `skip` always reads
the longest run of them, symbol by symbol, and `gap` reads the same if there is any and otherwise
fails. The place that they reach is the one that a cursor outside of verbatim tokens skips to, and
from there nothing more is skipped. -/
theorem skip_gap_read_skipped_blanks (c : Cursor) :
    let run := c.ahead.takeWhile isBlank
    LongestRun isBlank c.ahead run ∧
      (∀ values c', skip.parse.Accepts c values c' ↔
        values = run.map String.singleton ∧ c' = c.past run) ∧
      (∀ values c', gap.parse.Accepts c values c' ↔
        run ≠ [] ∧ values = run.map String.singleton ∧ c' = c.past run) ∧
      (gap.parse.Fails c ↔ run = []) ∧
      (∀ saved, (⟨c.place, saved, 0⟩ : Cursor).skipBlank = ⟨(c.past run).place, saved, 0⟩) ∧
      (c.past run).skipBlank = c.past run := by
  intro run
  refine ⟨longestRun_takeWhile isBlank c.ahead, fun values c' => accepts_skip_iff,
    fun values c' => ?_, ?_, fun saved => Cursor.skipBlank_eq _, skipBlank_past_takeWhile c⟩
  · rw [accepts_gap_iff, Ne, takeWhile_isBlank_eq_nil_iff, Bool.not_eq_false]
  · rw [fails_gap_iff, takeWhile_isBlank_eq_nil_iff]

end Token

end Parlance
