import Parlance.Proofs.Token.Quoted
import Parlance.Proofs.Token.Word

/-!
# What strings read

A string is quoted or a bare word. A quotation mark does not decide which of the two it is, but the
mark that closes does: one that is never closed is the first symbol of a word
(`Grammar.string_by_closing_mark`).
-/

namespace Parlance.Token

open Parlance.Parser

variable {c c' : Cursor} {mark : Char} {value : String}

/-! ## Quotation marks -/

/-- The marks that quoted strings stand between. -/
def marks : List Char := ['"', '\'']

lemma not_isBlank_of_mem_marks : ∀ mark ∈ marks, isBlank mark = false :=
  List.forall_mem_cons.mpr ⟨rfl, List.forall_mem_singleton.mpr rfl⟩

lemma quotedString_eq : quotedString = pick (marks.map quoted) := rfl

lemma orderly_marks : ∀ p ∈ marks.map quoted, p.parse.Orderly :=
  List.forall_mem_map.mpr fun mark _ =>
    Parse.hereditary_orderly.parse (Parse.hereditary_orderly.quoted mark)

/-- Only the mark that stands ahead can open a quoted string. -/
lemma fails_quoted_of_accepts (hread : (quoted mark).parse.Accepts c value c') {other : Char}
    (hne : other ≠ mark) : (quoted other).parse.Fails c := by
  obtain ⟨inside, symbols, rest, hopen, -⟩ := accepts_quoted_iff.mp hread
  exact fails_quoted fun text heq => hne (List.cons.inj (heq.symm.trans hopen)).1

/-- A quoted string may stand between marks of either kind. -/
theorem accepts_quotedString_iff :
    quotedString.parse.Accepts c value c' ↔
      ∃ mark ∈ marks, (quoted mark).parse.Accepts c value c' := by
  rw [quotedString_eq, accepts_pick_iff orderly_marks]
  constructor
  · intro ⟨before, p, after, heq, _, hread⟩
    have hmem : p ∈ marks.map quoted := by
      rw [heq]
      exact List.mem_append_right _ List.mem_cons_self
    obtain ⟨mark, hmark, rfl⟩ := List.mem_map.mp hmem
    exact ⟨mark, hmark, hread⟩
  · intro ⟨mark, hmark, hread⟩
    simp only [marks, List.mem_cons, List.not_mem_nil, or_false] at hmark
    rcases hmark with rfl | rfl
    · exact ⟨[], quoted '"', [quoted '\''], rfl, List.forall_mem_nil _, hread⟩
    · refine ⟨[quoted '"'], quoted '\'', [], rfl, List.forall_mem_singleton.mpr ?_, hread⟩
      exact fails_quoted_of_accepts hread (by decide)

lemma fails_quotedString_iff :
    quotedString.parse.Fails c ↔ ∀ mark ∈ marks, (quoted mark).parse.Fails c := by
  rw [quotedString_eq, fails_pick_iff orderly_marks]
  exact List.forall_mem_map

/-- Only the mark that stands ahead, if one does, has to be tried. -/
lemma fails_quotedString (hfails : ∀ mark ∈ marks, ∀ text, c.skipBlank.ahead = mark :: text →
    (quoted mark).parse.Fails c) : quotedString.parse.Fails c := by
  refine fails_quotedString_iff.mpr fun mark hmark => ?_
  by_cases hopen : ∃ text, c.skipBlank.ahead = mark :: text
  · obtain ⟨text, hopen⟩ := hopen
    exact hfails mark hmark text hopen
  · exact fails_quoted fun text heq => hopen ⟨text, heq⟩

/-! ## Strings -/

lemma orderly_strings : ∀ p ∈ [quotedString, word], p.parse.Orderly := by
  have hall := Parse.hereditary_orderly
  refine List.forall_mem_cons.mpr ⟨hall.parse hall.quotedString, ?_⟩
  exact List.forall_mem_singleton.mpr (hall.parse hall.word)

lemma accepts_string_of_quotedString (hread : quotedString.parse.Accepts c value c') :
    string.parse.Accepts c value c' :=
  (accepts_pick_iff orderly_strings).mpr
    ⟨[], quotedString, [word], rfl, List.forall_mem_nil _, hread⟩

/-- Where no quoted string is read, a string is a word. -/
lemma accepts_string_iff_of_fails (hfails : quotedString.parse.Fails c) :
    string.parse.Accepts c value c' ↔ word.parse.Accepts c value c' := by
  refine ⟨fun hread => ?_, fun hread => ?_⟩
  · obtain ⟨before, p, after, heq, -, hp⟩ := (accepts_pick_iff orderly_strings).mp hread
    have hmem : p ∈ [quotedString, word] := by
      rw [heq]
      exact List.mem_append_right _ List.mem_cons_self
    rw [List.mem_cons, List.mem_singleton] at hmem
    rcases hmem with rfl | rfl
    · exact absurd hfails hp.not_fails
    · exact hp
  · exact (accepts_pick_iff orderly_strings).mpr
      ⟨[quotedString], word, [], rfl, List.forall_mem_singleton.mpr hfails, hread⟩

lemma fails_string_iff_of_fails (hfails : quotedString.parse.Fails c) :
    string.parse.Fails c ↔ word.parse.Fails c := by
  rw [show string = pick [quotedString, word] from rfl, fails_pick_iff orderly_strings,
    List.forall_mem_cons, List.forall_mem_singleton]
  exact and_iff_right hfails

/-- An opening mark is solid, so a word begins there if no quoted string does. -/
lemma exists_accepts_word_of_mark (hmark : mark ∈ marks) {text : List Char}
    (hopen : c.skipBlank.ahead = mark :: text) : ∃ value c', word.parse.Accepts c value c' := by
  refine ⟨_, _, accepts_word_iff.mpr ⟨?_, rfl, rfl⟩⟩
  rw [hopen]
  show (!isBlank mark) = true
  rw [not_isBlank_of_mem_marks mark hmark]
  rfl

end Parlance.Token

namespace Parlance.Grammar

open Parlance.Token

/-- If the text behind any blanks opens with a quotation mark that is closed, a string is the quoted
string. If the mark is not closed, the string is the word that begins with it, so it does not fail
there. Without a mark it is a word, and fails if there is none. Where it fails, the cursor stays. -/
theorem string_by_closing_mark (rules : Rules) (c : Cursor) :
    let string := ((Grammar.token .string).parser rules).parse
    let word := ((Grammar.token .word).parser rules).parse
    let quoted := fun mark => ((Grammar.quoted mark).parser rules).parse
    (∀ mark ∈ marks, ∀ text, c.skipBlank.ahead = mark :: text →
      (∀ v c', (quoted mark).Accepts c v c' → string.Accepts c v c') ∧
      ((quoted mark).Fails c → ∃ v c', word.Accepts c v c' ∧ string.Accepts c v c')) ∧
    ((∀ mark ∈ marks, ∀ text, c.skipBlank.ahead ≠ mark :: text) →
      (∀ v c', string.Accepts c v c' ↔ word.Accepts c v c') ∧ (string.Fails c ↔ word.Fails c)) ∧
    ∀ e c', string.Rejects c e c' → c' = c := by
  intro string word quoted
  refine ⟨fun mark hmark text hopen => ⟨fun v c' hread => ?_, fun hfails => ?_⟩,
    fun hno => ⟨fun v c' => ?_, ?_⟩, fun e c' hrejects => ?_⟩
  · obtain ⟨value, hvalue, rfl⟩ := Parser.accepts_convert_iff.mp hread
    have hquoted := accepts_quotedString_iff.mpr ⟨mark, hmark, hvalue⟩
    exact Parser.accepts_convert_iff.mpr ⟨value, accepts_string_of_quotedString hquoted, rfl⟩
  · -- no other mark stands ahead, so the string is a word
    have hfails : Token.quotedString.parse.Fails c := fails_quotedString fun other _ _ hother => by
      obtain rfl := (List.cons.inj (hopen.symm.trans hother)).1
      exact Parser.fails_convert_iff.mp hfails
    obtain ⟨value, c', hread⟩ := exists_accepts_word_of_mark hmark hopen
    exact ⟨.str value, c', Parser.accepts_convert_iff.mpr ⟨value, hread, rfl⟩,
      Parser.accepts_convert_iff.mpr
        ⟨value, (accepts_string_iff_of_fails hfails).mpr hread, rfl⟩⟩
  · have hfails := fails_quotedString fun mark hmark text hopen =>
      absurd hopen (hno mark hmark text)
    show (Token.string.convert _).parse.Accepts c v c' ↔ (Token.word.convert _).parse.Accepts c v c'
    simp only [Parser.accepts_convert_iff, accepts_string_iff_of_fails hfails]
  · have hfails := fails_quotedString fun mark hmark text hopen =>
      absurd hopen (hno mark hmark text)
    show (Token.string.convert _).parse.Fails c ↔ (Token.word.convert _).parse.Fails c
    rw [Parser.fails_convert_iff, Parser.fails_convert_iff, fails_string_iff_of_fails hfails]
  · exact ((Parser.rejects_pick_iff orderly_strings).mp
      (Parser.rejects_convert_iff.mp hrejects)).2.1

/-- The string that nothing closes is read up to the next blank, with the mark for its first
symbol. -/
theorem string_reads_unclosed_mark :
    let c := Cursor.ofString "\"abc def"
    ((Grammar.quoted '"').parser []).parse.Fails c ∧
      ((Grammar.token .string).parser []).parse.Accepts c (.str "\"abc")
        (c.past "\"abc".toList) := by
  intro c
  have hopen : c.skipBlank.ahead = '"' :: "abc def".toList := rfl
  have hscan : scanQuoted '"' "abc def".toList = none := by decide
  exact ⟨Parser.fails_convert_iff.mpr (rejects_quoted hopen hscan).fails, 0, by decide +kernel⟩

end Parlance.Grammar
