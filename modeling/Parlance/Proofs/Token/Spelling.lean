import Parlance.Proofs.Token.String

/-!
# Spellings of quoted strings

A text can be put between quotation marks in many ways: a symbol other than the mark and the
backslash can be written as it is, and a symbol with an escape can be written as that. However it is
spelled, what is read back is the text (`Grammar.quoted_reads_spelling`).
-/

namespace Parlance.Token

open Parlance.Parser

variable {c : Cursor} {mark : Char} {spelling text rest : List Char}

/-! ## Spellings -/

/-- The first text is a way of writing the second one between two delimiters. -/
inductive Spells (delimiter : Char) : (spelling text : List Char) → Prop
  | nil : Spells delimiter [] []
  | plain {x : Char} {spelling text : List Char} : x ≠ delimiter → x ≠ '\\' →
    Spells delimiter spelling text → Spells delimiter (x :: spelling) (x :: text)
  | escaped {letter x : Char} {spelling text : List Char} : escape? '\\' letter = some x →
    Spells delimiter spelling text → Spells delimiter ('\\' :: letter :: spelling) (x :: text)

lemma escapeAhead?_of_ne {x : Char} (hx : x ≠ '\\') (text : List Char) :
    escapeAhead? (x :: text) = none := by
  cases text with
  | nil => rfl
  | cons y text => exact escape?_of_ne hx

/-- The pass over a spelling makes the text of it that is spelled. -/
theorem Spells.scanQuoted_eq {delimiter : Char} (hspells : Spells delimiter spelling text)
    (hdelimiter : delimiter ≠ '\\') (rest : List Char) :
    scanQuoted delimiter (spelling ++ delimiter :: rest) = some (text, rest) := by
  induction hspells with
  | nil => exact scanQuoted_of_delimiter delimiter (escapeAhead?_of_ne hdelimiter rest)
  | plain hx hslash _ ih =>
    rw [List.cons_append, scanQuoted_of_ne delimiter (escapeAhead?_of_ne hslash _) hx, ih]
    rfl
  | escaped hescape _ ih =>
    rw [List.cons_append, List.cons_append, scanQuoted_of_escape delimiter _ hescape, ih]
    rfl

lemma ne_backslash_of_mem_marks : ∀ mark ∈ marks, mark ≠ '\\' :=
  List.forall_mem_cons.mpr ⟨by decide, List.forall_mem_singleton.mpr (by decide)⟩

lemma accepts_quoted_of_spells {value : String} (hspells : Spells mark spelling value.toList)
    (hmark : mark ∈ marks) (hahead : c.ahead = mark :: (spelling ++ [mark]) ++ rest) :
    (quoted mark).parse.Accepts c value (c.past (mark :: (spelling ++ [mark]))) := by
  have hopen : c.ahead = mark :: (spelling ++ mark :: rest) := by
    rw [hahead, List.cons_append, List.append_assoc, List.singleton_append]
  have hskip : c.skipBlank = c := by
    refine Cursor.skipBlank_of_not_startsBlank ?_
    rw [hopen]
    exact not_isBlank_of_mem_marks mark hmark
  refine accepts_quoted_iff.mpr ⟨spelling, value.toList, rest, ?_, ?_, ?_, ?_⟩
  · rw [hskip, hopen]
  · exact hspells.scanQuoted_eq (ne_backslash_of_mem_marks mark hmark) rest
  · exact String.ofList_toList.symm
  · rw [hskip]

/-- A text with a backslash in front of every double quote and every backslash. -/
def escapeQuotes : List Char → List Char
  | [] => []
  | x :: text =>
    if x = '"' ∨ x = '\\' then '\\' :: x :: escapeQuotes text else x :: escapeQuotes text

/-- A string in double quotes. -/
def enquote (value : String) : List Char := '"' :: (escapeQuotes value.toList ++ ['"'])

lemma spells_escapeQuotes (text : List Char) : Spells '"' (escapeQuotes text) text := by
  induction text with
  | nil => exact .nil
  | cons x text ih =>
    rw [escapeQuotes]
    split
    · next hx => exact .escaped (by rcases hx with rfl | rfl <;> rfl) ih
    · next hx => exact .plain (fun h => hx (.inl h)) (fun h => hx (.inr h)) ih

/-- What was put in quotes is read back. -/
theorem accepts_string {value : String} (hahead : c.ahead = enquote value ++ rest) :
    string.parse.Accepts c value (c.past (enquote value)) := by
  refine accepts_string_of_quotedString (accepts_quotedString_iff.mpr ⟨'"', by decide, ?_⟩)
  exact accepts_quoted_of_spells (spells_escapeQuotes value.toList) (by decide) hahead

end Parlance.Token

namespace Parlance.Grammar

open Parlance.Token

/-- Between two quotation marks of one kind, every spelling of a text is read as that text, and what
follows the second mark is left ahead. -/
theorem quoted_reads_spelling (rules : Rules) {mark : Char} (hmark : mark ∈ marks) {s : String}
    {spelling : List Char} (hspells : Spells mark spelling s.toList) {c : Cursor} {rest : List Char}
    (hahead : c.ahead = mark :: (spelling ++ [mark]) ++ rest) :
    ∃ c', c'.ahead = rest ∧ c' = c.past (mark :: (spelling ++ [mark])) ∧
      ∀ g ∈ [Grammar.quoted mark, .token .quotedString, .token .string],
        (g.parser rules).parse.Accepts c (.str s) c' := by
  have hquoted := accepts_quoted_of_spells hspells hmark hahead
  have hmarked := accepts_quotedString_iff.mpr ⟨mark, hmark, hquoted⟩
  have hstring := accepts_string_of_quotedString hmarked
  refine ⟨_, Cursor.ahead_past_of_eq hahead, rfl, ?_⟩
  refine List.forall_mem_cons.mpr ⟨Parser.accepts_convert_iff.mpr ⟨s, hquoted, rfl⟩, ?_⟩
  refine List.forall_mem_cons.mpr ⟨Parser.accepts_convert_iff.mpr ⟨s, hmarked, rfl⟩, ?_⟩
  exact List.forall_mem_singleton.mpr (Parser.accepts_convert_iff.mpr ⟨s, hstring, rfl⟩)

/-- A mark and a line end are escaped, a tab is not. -/
theorem quoted_reads_spelling_note :
    let c := Cursor.ofString "'it\\'s\\n\tok' -b"
    let spelling := "it\\'s\\n\tok".toList
    '\'' ∈ marks ∧ Spells '\'' spelling "it's\n\tok".toList ∧
      c.ahead = '\'' :: (spelling ++ ['\'']) ++ " -b".toList ∧
      ∃ c', c'.ahead = " -b".toList ∧ c' = c.past ('\'' :: (spelling ++ ['\''])) ∧
        ∀ g ∈ [Grammar.quoted '\'', .token .quotedString, .token .string],
          (g.parser []).parse.Accepts c (.str "it's\n\tok") c' := by
  intro c spelling
  have hspells : Spells '\'' spelling "it's\n\tok".toList := by
    refine .plain (by decide) (by decide) (.plain (by decide) (by decide) ?_)
    refine .escaped rfl (.plain (by decide) (by decide) (.escaped rfl ?_))
    refine .plain (by decide) (by decide) (.plain (by decide) (by decide) ?_)
    exact .plain (by decide) (by decide) .nil
  exact ⟨by decide, hspells, rfl, quoted_reads_spelling [] (by decide) hspells rfl⟩

end Parlance.Grammar
