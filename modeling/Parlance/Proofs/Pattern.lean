import Parlance.Grammar.Rules
import Parlance.Proofs.Cursor
import Parlance.Proofs.Regex.Reader
import Parlance.Proofs.Regex.Search
import Parlance.Proofs.Steps

/-!
# What patterns read

A pattern and a capture of the same expression find the same match. The pattern then reads the text up
to the end of the match, and the capture as many bytes as the match is long
(`Grammar.patterns_find_same`). This is the same if the match starts at the cursor, which it does for
every text that is a regular expression by itself (`Grammar.patterns_read_matched`). A text that
becomes one only between the parentheses that are put around it can match further on.
-/

namespace Parlance

/-! ## Compiled patterns -/

namespace Pattern

open Regex

variable {source : String} {p : Pattern} {e : Expr}

lemma toList_anchored (source : String) :
    (anchored source).toList = '^' :: '(' :: '?' :: ':' :: (source.toList ++ [')']) := by
  simp [anchored]

/-- A pattern holds the expression that its text is read as in parentheses, and its program. -/
lemma of_compile (h : compile source = .ok p) :
    Expr.read ('^' :: '(' :: '?' :: ':' :: (source.toList ++ [')'])) = .ok p.regex.expr ∧
      p.regex.program = .ofExpr p.regex.expr := by
  rw [← toList_anchored]
  unfold compile Regex.compile at h
  cases hread : Expr.read (anchored source).toList with
  | error e =>
    rw [hread] at h
    cases h
  | ok e =>
    rw [hread] at h
    cases hfits : fits e with
    | false =>
      simp [hfits, bind, Except.bind] at h
    | true =>
      simp [hfits, bind, Except.bind, pure, Except.pure] at h
      subst h
      exact ⟨rfl, rfl⟩

/-- If the text is an expression by itself, what is put in front of it stays in front. -/
lemma beginsText (hread : Expr.read source.toList = .ok e) (hcompile : compile source = .ok p) :
    BeginsText p.regex.expr := by
  rw [read_anchored hread (of_compile hcompile).1, (beginsText_sequence e).choice_singleton]
  exact beginsText_sequence e

end Pattern

/-! ## Matching at a cursor -/

namespace Parser

variable {α : Type} {p : Pattern} {c c' : Cursor}

lemma accepts_searching_iff {f : List Char → Regex.Match → Parse α} {a : α} :
    (searching p f).Accepts c a c' ↔
      ∃ m, p.regex.find? c.ahead = some m ∧ (f c.ahead m).Accepts c a c' := by
  rw [searching, Parse.accepts_get_bind_iff]
  cases p.regex.find? c.ahead with
  | none => simp
  | some m => simp

lemma rejects_searching_iff {f : List Char → Regex.Match → Parse α} {e : ParseError}
    (hf : ∀ text m e c', ¬ (f text m).Rejects c e c') :
    (searching p f).Rejects c e c' ↔ p.regex.find? c.ahead = none ∧ e = noMatch p c ∧ c' = c := by
  rw [searching, Parse.rejects_get_bind_iff]
  cases p.regex.find? c.ahead with
  | none =>
    constructor
    · intro h
      obtain ⟨rfl, rfl⟩ := h.unique (Parse.rejects_fail (noMatch p) c)
      exact ⟨rfl, rfl, rfl⟩
    · rintro ⟨-, rfl, rfl⟩
      exact Parse.rejects_fail _ _
  | some m => simp [hf]

/-- Moving on and giving a value always succeeds. -/
lemma accepts_modify_pure_iff {g : Cursor → Cursor} {a b : α} :
    (Parse.modify g >>= fun _ => (pure b : Parse α)).Accepts c a c' ↔ a = b ∧ c' = g c := by
  rw [(Parse.accepts_modify g c).bind_accepts_iff, Parse.accepts_pure_iff]

lemma not_rejects_modify_pure {g : Cursor → Cursor} {b : α} {e : ParseError} :
    ¬ (Parse.modify g >>= fun _ => (pure b : Parse α)).Rejects c e c' := by
  intro h
  have haccepts := accepts_modify_pure_iff (c := c) (g := g) (a := b).mpr ⟨rfl, rfl⟩
  exact haccepts.not_fails h.fails

lemma advanceBytes_take (c : Cursor) (n : ℕ) :
    c.advanceBytes (byteLength (c.ahead.take n)) = c.past (c.ahead.take n) :=
  Cursor.advanceBytes_append (List.take_append_drop n c.ahead).symm

/-- A pattern reads up to the end of the match. -/
theorem accepts_pattern_iff {value : String} :
    (pattern p).parse.Accepts c value c' ↔
      ∃ m, p.regex.find? c.skipBlank.ahead = some m ∧
        value = String.ofList (slice c.skipBlank.ahead m.start m.stop) ∧
        c' = c.skipBlank.past (c.skipBlank.ahead.take m.stop) := by
  show Parse.Accepts (pattern p).attempt c.skipBlank value c' ↔ _
  rw [attempt_pattern, accepts_searching_iff]
  simp only [accepts_modify_pure_iff, advanceBytes_take]

/-- A capture reads as many bytes as the match is long. -/
theorem accepts_capture_iff {value : Captured} :
    (capture p).parse.Accepts c value c' ↔
      ∃ m, p.regex.find? c.skipBlank.ahead = some m ∧ value = captured c.skipBlank.ahead m ∧
        c' = c.skipBlank.advanceBytes (byteLength (slice c.skipBlank.ahead m.start m.stop)) := by
  show Parse.Accepts (capture p).attempt c.skipBlank value c' ↔ _
  rw [attempt_capture, accepts_searching_iff]
  simp only [accepts_modify_pure_iff]

/-- Both fail where there is no match, with the same error and without having read anything. -/
lemma rejects_pattern_iff {e : ParseError} :
    (pattern p).parse.Rejects c e c' ↔
      p.regex.find? c.skipBlank.ahead = none ∧ e = noMatch p c.skipBlank ∧ c' = c.skipBlank := by
  show Parse.Rejects (pattern p).attempt c.skipBlank e c' ↔ _
  rw [attempt_pattern, rejects_searching_iff fun _ _ _ _ => not_rejects_modify_pure]

lemma rejects_capture_iff {e : ParseError} :
    (capture p).parse.Rejects c e c' ↔
      p.regex.find? c.skipBlank.ahead = none ∧ e = noMatch p c.skipBlank ∧ c' = c.skipBlank := by
  show Parse.Rejects (capture p).attempt c.skipBlank e c' ↔ _
  rw [attempt_capture, rejects_searching_iff fun _ _ _ _ => not_rejects_modify_pure]

/-- What stands in front of a match and the match itself are what is read up to its end. -/
lemma take_start_append_slice {text : List Char} {m : Regex.Match}
    (hfind : p.regex.find? text = some m) :
    text.take m.start ++ slice text m.start m.stop = text.take m.stop := by
  have htake : (text.take m.stop).take m.start = text.take m.start := by
    rw [List.take_take, Nat.min_eq_left (Regex.find?_bounds hfind).1]
  rw [slice, ← htake]
  exact List.take_append_drop _ _

/-- A match that starts at the cursor is all that is read up to its end. -/
lemma slice_of_start (text : List Char) {m : Regex.Match} (hstart : m.start = 0) :
    slice text m.start m.stop = text.take m.stop := by
  rw [slice, hstart, List.drop_zero]

end Parser

/-! ## Patterns in grammars -/

namespace Grammar

/-- The value of a capture says what text it matched. -/
lemma eq_of_captured_eq {s s' : String} {groups groups' : Value}
    (h : Value.list [.str s, groups] = .list [.str s', groups']) : s = s' :=
  Value.str.inj (List.cons.inj (Value.list.inj h)).1

/-- Whatever the text of a pattern is, the pattern and the capture find the same text at the same
places. The pattern reads up to its end and passes over what stands in front, and the capture reads
as many bytes as it has. -/
theorem patterns_find_same (rules : Rules) (p : Pattern) (c : Cursor) :
    let start := c.skipBlank
    let pattern := ((Grammar.pattern p).parser rules).parse
    let capture := ((Grammar.capture p).parser rules).parse
    (∀ v c', pattern.Accepts c v c' → ∃ (s : String) (passed : List Char),
      v = .str s ∧ passed ++ s.toList <+: start.ahead ∧ c' = start.past (passed ++ s.toList)) ∧
    (∀ v c', capture.Accepts c v c' → ∃ (s : String) (groups : List String),
      v = .list [.str s, Value.ofStrings groups] ∧
        c' = start.advanceBytes (byteLength s.toList)) ∧
    (∀ s : String, (∃ c', pattern.Accepts c (.str s) c') ↔
      ∃ groups c', capture.Accepts c (.list [.str s, Value.ofStrings groups]) c') ∧
    ∀ err c', pattern.Rejects c err c' ↔ capture.Rejects c err c' := by
  intro start pattern capture
  refine ⟨fun v c' h => ?_, fun v c' h => ?_,
    fun s => ⟨fun ⟨c', h⟩ => ?_, fun ⟨groups, c', h⟩ => ?_⟩, fun err c' => ?_⟩
  · obtain ⟨s, hs, rfl⟩ := Parser.accepts_convert_iff.mp h
    obtain ⟨m, hfind, rfl, rfl⟩ := Parser.accepts_pattern_iff.mp hs
    refine ⟨_, start.ahead.take m.start, rfl, ?_, ?_⟩ <;>
      rw [String.toList_ofList, Parser.take_start_append_slice hfind]
    exact List.take_prefix _ _
  · obtain ⟨found, hfound, rfl⟩ := Parser.accepts_convert_iff.mp h
    obtain ⟨m, hfind, rfl, rfl⟩ := Parser.accepts_capture_iff.mp hfound
    refine ⟨String.ofList (slice start.ahead m.start m.stop), _, rfl, ?_⟩
    rw [String.toList_ofList]
  · obtain ⟨_, hs, heq⟩ := Parser.accepts_convert_iff.mp h
    obtain rfl := Value.str.inj heq
    obtain ⟨m, hfind, rfl, rfl⟩ := Parser.accepts_pattern_iff.mp hs
    exact ⟨_, _, Parser.accepts_convert_iff.mpr
      ⟨_, Parser.accepts_capture_iff.mpr ⟨m, hfind, rfl, rfl⟩, rfl⟩⟩
  · obtain ⟨found, hfound, heq⟩ := Parser.accepts_convert_iff.mp h
    obtain rfl := eq_of_captured_eq heq
    obtain ⟨m, hfind, rfl, rfl⟩ := Parser.accepts_capture_iff.mp hfound
    exact ⟨_, Parser.accepts_convert_iff.mpr
      ⟨_, Parser.accepts_pattern_iff.mpr ⟨m, hfind, rfl, rfl⟩, rfl⟩⟩
  · show ((Parser.pattern p).convert Value.str).parse.Rejects c err c'
      ↔ ((Parser.capture p).convert Value.ofCaptured).parse.Rejects c err c'
    rw [Parser.rejects_convert_iff, Parser.rejects_convert_iff, Parser.rejects_pattern_iff,
      Parser.rejects_capture_iff]

/-- If the text of a pattern is a regular expression by itself, the pattern and the capture read, from
behind any blanks, the text that they match and nothing else, and they do so at the same places. -/
theorem patterns_read_matched (rules : Rules) {source : String} {e : Regex.Expr} {p : Pattern}
    (hread : Regex.Expr.read source.toList = .ok e) (hcompile : Pattern.compile source = .ok p)
    (c : Cursor) :
    let start := c.skipBlank
    let pattern := ((Grammar.pattern p).parser rules).parse
    let capture := ((Grammar.capture p).parser rules).parse
    (∀ v c', pattern.Accepts c v c' → ∃ s : String, v = .str s ∧ s.toList <+: start.ahead ∧
      c' = start.past s.toList) ∧
    (∀ v c', capture.Accepts c v c' → ∃ (s : String) (groups : List String),
      v = .list [.str s, Value.ofStrings groups] ∧ s.toList <+: start.ahead ∧
      c' = start.past s.toList) ∧
    (∀ s c', pattern.Accepts c (.str s) c' ↔
      ∃ groups, capture.Accepts c (.list [.str s, Value.ofStrings groups]) c') ∧
    ∀ err c', pattern.Rejects c err c' ↔ capture.Rejects c err c' := by
  intro start pattern capture
  have hstart {text : List Char} {m : Regex.Match} (hfind : p.regex.find? text = some m) :
      m.start = 0 :=
    (Pattern.beginsText hread hcompile).find?_start (Pattern.of_compile hcompile).2 hfind
  have hpattern (v : Value) (c' : Cursor) (h : pattern.Accepts c v c') :
      ∃ s : String, v = .str s ∧ s.toList <+: start.ahead ∧ c' = start.past s.toList := by
    obtain ⟨s, hs, rfl⟩ := Parser.accepts_convert_iff.mp h
    obtain ⟨m, hfind, rfl, rfl⟩ := Parser.accepts_pattern_iff.mp hs
    rw [Parser.slice_of_start _ (hstart hfind)]
    refine ⟨_, rfl, ?_, ?_⟩ <;> rw [String.toList_ofList]
    exact List.take_prefix _ _
  have hcapture (v : Value) (c' : Cursor) (h : capture.Accepts c v c') :
      ∃ (s : String) (groups : List String), v = .list [.str s, Value.ofStrings groups] ∧
        s.toList <+: start.ahead ∧ c' = start.past s.toList := by
    obtain ⟨found, hfound, rfl⟩ := Parser.accepts_convert_iff.mp h
    obtain ⟨m, hfind, rfl, rfl⟩ := Parser.accepts_capture_iff.mp hfound
    rw [Parser.captured, Parser.slice_of_start _ (hstart hfind), Parser.advanceBytes_take]
    refine ⟨_, _, rfl, ?_, ?_⟩ <;> rw [String.toList_ofList]
    exact List.take_prefix _ _
  obtain ⟨-, -, hsame, hrejects⟩ := patterns_find_same rules p c
  refine ⟨hpattern, hcapture, fun s c' => ⟨fun h => ?_, fun ⟨groups, h⟩ => ?_⟩, hrejects⟩
  · obtain ⟨groups, c₁, hread⟩ := (hsame s).mp ⟨c', h⟩
    obtain ⟨_, hs, -, rfl⟩ := hpattern _ _ h
    obtain ⟨_, _, hs', -, rfl⟩ := hcapture _ _ hread
    obtain rfl := Value.str.inj hs
    obtain rfl := eq_of_captured_eq hs'
    exact ⟨groups, hread⟩
  · obtain ⟨c₁, hread⟩ := (hsame s).mpr ⟨groups, c', h⟩
    obtain ⟨_, _, hs, -, rfl⟩ := hcapture _ _ h
    obtain ⟨_, hs', -, rfl⟩ := hpattern _ _ hread
    obtain rfl := eq_of_captured_eq hs
    obtain rfl := Value.str.inj hs'
    exact hread

/-- The mark in front is kept for each branch of a choice, because all of them are in the
parentheses. -/
theorem patterns_read_matched_choice :
    let c := Cursor.ofString " ab"
    ∃ e p, Regex.Expr.read "b|a".toList = .ok e ∧ Pattern.compile "b|a" = .ok p ∧
      let start := c.skipBlank
      let pattern := ((Grammar.pattern p).parser []).parse
      let capture := ((Grammar.capture p).parser []).parse
      (∀ v c', pattern.Accepts c v c' → ∃ s : String, v = .str s ∧ s.toList <+: start.ahead ∧
        c' = start.past s.toList) ∧
      (∀ v c', capture.Accepts c v c' → ∃ (s : String) (groups : List String),
        v = .list [.str s, Value.ofStrings groups] ∧ s.toList <+: start.ahead ∧
        c' = start.past s.toList) ∧
      (∀ s c', pattern.Accepts c (.str s) c' ↔
        ∃ groups, capture.Accepts c (.list [.str s, Value.ofStrings groups]) c') ∧
      ∀ err c', pattern.Rejects c err c' ↔ capture.Rejects c err c' := by
  intro c
  obtain ⟨e, hread⟩ := exists_eq_ok_of_isOk
    (show (Regex.Expr.read "b|a".toList).isOk = true by decide +kernel)
  obtain ⟨p, hcompile⟩ := exists_eq_ok_of_isOk
    (show (Pattern.compile "b|a").isOk = true by decide +kernel)
  exact ⟨e, p, hread, hcompile, patterns_read_matched [] hread hcompile c⟩

/-- A parenthesis that closes the group around the text leaves what follows without the mark in
front. The match is then further on, and the pattern reads more than it gives, the capture something
else than it gives. -/
theorem patterns_read_past_parenthesis :
    let c := Cursor.ofString "xb"
    ¬ ['b'] <+: c.skipBlank.ahead ∧ ∃ p, Pattern.compile "a)|(?:b" = .ok p ∧
      ((Grammar.pattern p).parser []).parse.Accepts c (.str "b") (c.past ['x', 'b']) ∧
      ((Grammar.capture p).parser []).parse.Accepts c (.list [.str "b", .list []])
        (c.past ['x']) := by
  intro c
  obtain ⟨p, hcompile⟩ := exists_eq_ok_of_isOk
    (show (Pattern.compile "a)|(?:b").isOk = true by decide +kernel)
  have hfind : p.regex.find? c.skipBlank.ahead = some ⟨1, 2, []⟩ := by
    have hfound : ((Pattern.compile "a)|(?:b").map fun p => p.regex.find? c.skipBlank.ahead)
        = .ok (some ⟨1, 2, []⟩) := by decide +kernel
    rw [hcompile] at hfound
    exact Except.ok.inj hfound
  refine ⟨by decide, p, hcompile, ?_, ?_⟩
  · exact Parser.accepts_convert_iff.mpr
      ⟨_, Parser.accepts_pattern_iff.mpr ⟨_, hfind, rfl, rfl⟩, rfl⟩
  · exact Parser.accepts_convert_iff.mpr
      ⟨_, Parser.accepts_capture_iff.mpr ⟨_, hfind, rfl, by decide +kernel⟩, rfl⟩

end Grammar

end Parlance
