import Parlance.Command.Argument
import Parlance.Proofs.Token.Blank

/-!
# What an argument reads

An argument stands in a text as blanks, a dash, its name, a gap, and a value. `Flagged` describes
the part in front of the value. Where a text is flagged for an argument, the parser of the argument
is the parser of its value, run from behind the gap; where it is not, the argument fails
(`fails_positional`).
-/

namespace Parlance.Command

open Parlance.Parser

variable {α : Type} {c c' : Cursor} {name : String} {text lead gap body : List Char}

/-! ## Flagged texts -/

/-- The text in front of the value of an argument. -/
def front (name : String) (lead gap : List Char) : List Char :=
  lead ++ ('-' :: name.toList ++ gap)

/-- `text` is flagged for the argument `name`, and its value would begin with `body`. -/
structure Flagged (name : String) (text lead gap body : List Char) : Prop where
  blank_lead : Blank lead
  blank_gap : Blank gap
  gap_ne_nil : gap ≠ []
  body_solid : startsBlank body = false
  text_eq : text = front name lead gap ++ body

/-- The first word of a text, without the blanks in front of it. -/
def firstWord (text : List Char) : List Char :=
  (text.dropWhile isBlank).takeWhile fun x => !isBlank x

/-- The first word of a flagged text is the flag, unless the name has blanks in it. -/
lemma Flagged.firstWord_eq (h : Flagged name text lead gap body)
    (hname : ∀ x ∈ name.toList, isBlank x = false) : firstWord text = '-' :: name.toList := by
  have htext : text = lead ++ ('-' :: name.toList ++ (gap ++ body)) := by
    rw [h.text_eq, front]
    simp only [List.append_assoc]
  have hflag : ∀ x ∈ '-' :: name.toList, (!isBlank x) = true :=
    List.forall_mem_cons.mpr ⟨rfl, fun x hx => by rw [hname x hx]; rfl⟩
  rw [firstWord, htext, dropWhile_isBlank_append h.blank_lead rfl,
    List.takeWhile_append_of_pos hflag]
  -- the gap begins with a blank, which ends the word
  cases gap with
  | nil => exact absurd rfl h.gap_ne_nil
  | cons x gap =>
    have hx : ¬ (!isBlank x) = true := by
      rw [h.blank_gap x List.mem_cons_self]
      decide
    have hword : ((x :: gap) ++ body).takeWhile (fun x => !isBlank x) = [] :=
      List.takeWhile_cons_of_neg hx
    rw [hword, List.append_nil]

/-- Nothing is flagged at the end of the text. -/
lemma not_flagged_nil : ¬ Flagged name [] lead gap body := by
  intro h
  have htext := h.text_eq
  rw [front, List.append_assoc] at htext
  simp at htext

/-! ## Flags -/

/-- The dash and the name, read as one token. -/
def dashed (name : String) : Parse String := do
  let _ ← (literal "-").parse
  (literal name).parse

lemma accepts_dashed (hverbatim : c.isVerbatim = true) {rest : List Char}
    (hahead : c.ahead = '-' :: name.toList ++ rest) :
    (dashed name).Accepts c name (c.past ('-' :: name.toList)) := by
  have hahead' : c.ahead = ['-'] ++ (name.toList ++ rest) := hahead
  have hdash : (literal "-").parse.Accepts c "-" (c.past ['-']) :=
    accepts_literal_of_isVerbatim hverbatim hahead'
  have hname : (literal name).parse.Accepts (c.past ['-']) name _ :=
    accepts_literal_of_isVerbatim hverbatim (Cursor.ahead_past_of_eq hahead')
  rw [Cursor.past_past] at hname
  exact hdash.bind hname

lemma fails_dashed (hverbatim : c.isVerbatim = true)
    (hahead : ¬ '-' :: name.toList <+: c.ahead) : (dashed name).Fails c := by
  by_cases hdash : ['-'] <+: c.ahead
  · obtain ⟨rest, hrest⟩ := hdash
    have hread : (literal "-").parse.Accepts c "-" (c.past ['-']) :=
      accepts_literal_of_isVerbatim hverbatim hrest.symm
    refine hread.bind_fails (fails_literal_iff.mpr ?_)
    rw [approach_of_isVerbatim (c := c.past ['-']) _ hverbatim,
      Cursor.ahead_past_of_eq hrest.symm]
    intro hname
    rw [← hrest] at hahead
    exact hahead (List.cons_prefix_cons.mpr ⟨rfl, hname⟩)
  · refine (fails_literal_iff.mpr ?_).bind _
    rwa [approach_of_isVerbatim _ hverbatim]

/-- A flag is the dash and the name, where no blanks are in front. -/
lemma accepts_flag {rest : List Char} (hahead : c.ahead = '-' :: name.toList ++ rest) :
    (flag name).parse.Accepts c name (c.past ('-' :: name.toList)) := by
  have hsolid : startsBlank c.ahead = false := by rw [hahead]; rfl
  have htoken : (verbatim (few (dashed name))).parse.Accepts c name
      (c.past ('-' :: name.toList)) := by
    show (dashed name).verbatim.Accepts ((verbatim (few (dashed name))).approach c) _ _
    rw [approach_of_not_startsBlank _ hsolid, Parse.accepts_verbatim_iff]
    exact ⟨_, accepts_dashed c.isVerbatim_enterVerbatim hahead, rfl⟩
  exact htoken.bind (Parse.accepts_pure_iff.mpr ⟨rfl, rfl⟩)

lemma fails_flag (hsolid : startsBlank c.ahead = false)
    (hahead : ¬ '-' :: name.toList <+: c.ahead) : (flag name).parse.Fails c := by
  have htoken : (verbatim (few (dashed name))).parse.Fails c := by
    show (dashed name).verbatim.Fails ((verbatim (few (dashed name))).approach c)
    rw [approach_of_not_startsBlank _ hsolid, Parse.fails_verbatim_iff]
    exact fails_dashed c.isVerbatim_enterVerbatim hahead
  exact htoken.bind _

/-! ## Positional arguments -/

section Positional

variable {kind : Parser α}

lemma parse_positional (name : String) (kind : Parser α) :
    (positional name kind).parse = (do
      let _ ← Token.skip.parse
      let _ ← (flag name).parse
      let _ ← Token.gap.parse
      kind.parse) := by
  show (_ >>= pure : Parse α) = _
  rw [bind_pure]
  rfl

/-- Where the text is not flagged for it, the argument fails. -/
theorem fails_positional (h : ∀ lead gap body, ¬ Flagged name c.ahead lead gap body) :
    (positional name kind).parse.Fails c := by
  rw [parse_positional]
  have hahead : c.ahead = c.ahead.takeWhile isBlank ++ c.ahead.dropWhile isBlank :=
    List.takeWhile_append_dropWhile.symm
  have hsolid : startsBlank (c.ahead.dropWhile isBlank) = false := startsBlank_dropWhile c.ahead
  refine (Token.accepts_skip_iff.mpr ⟨rfl, rfl⟩).bind_fails ?_
  have hlead : (c.past (c.ahead.takeWhile isBlank)).ahead = c.ahead.dropWhile isBlank :=
    Cursor.ahead_past_of_eq hahead
  by_cases hdash : '-' :: name.toList <+: c.ahead.dropWhile isBlank
  · -- the flag stands there, but no gap behind it
    obtain ⟨rest, hrest⟩ := hdash
    apply (accepts_flag (hlead.trans hrest.symm)).bind_fails
    refine (Token.fails_gap_iff.mpr ?_).bind _
    rw [Cursor.ahead_past_of_eq (hlead.trans hrest.symm)]
    -- with a gap behind the flag the text would be flagged
    by_contra hgap
    rw [Bool.not_eq_false] at hgap
    refine h (c.ahead.takeWhile isBlank) (rest.takeWhile isBlank) (rest.dropWhile isBlank)
      ⟨blank_takeWhile _, blank_takeWhile _, ?_, startsBlank_dropWhile _, ?_⟩
    · exact takeWhile_isBlank_ne_nil hgap
    · rw [front, List.append_assoc, List.append_assoc, List.takeWhile_append_dropWhile, hrest]
      exact hahead
  · refine (fails_flag ?_ ?_).bind _
    · rw [hlead]
      exact hsolid
    · rwa [hlead]

lemma exists_flagged_of_accepts_positional {a : α}
    (h : (positional name kind).parse.Accepts c a c') :
    ∃ lead gap body, Flagged name c.ahead lead gap body := by
  by_contra hnone
  simp only [not_exists] at hnone
  exact h.not_fails (fails_positional hnone)

/-- Where the text is flagged, what is in front of the value is read without fail. -/
lemma Flagged.parse_positional_eq (h : Flagged name c.ahead lead gap body) :
    (∀ a c', (positional name kind).parse.Accepts c a c'
      ↔ kind.parse.Accepts (c.past (front name lead gap)) a c') ∧
    ((positional name kind).parse.Fails c
      ↔ kind.parse.Fails (c.past (front name lead gap))) := by
  have hahead : c.ahead = lead ++ ('-' :: name.toList ++ (gap ++ body)) := by
    rw [h.text_eq, front]
    simp only [List.append_assoc]
  -- the blanks, the flag and the gap are read one after another
  have hskip := Token.accepts_skip h.blank_lead rfl hahead
  have hlead := Cursor.ahead_past_of_eq hahead
  have hflag := accepts_flag hlead
  have hdash := Cursor.ahead_past_of_eq hlead
  rw [Cursor.past_past] at hflag hdash
  have hgap : Token.gap.parse.Accepts (c.past (lead ++ '-' :: name.toList))
      (gap.map String.singleton) ((c.past (lead ++ '-' :: name.toList)).past gap) := by
    rw [Token.accepts_gap_iff, hdash, takeWhile_isBlank_append h.blank_gap h.body_solid]
    exact ⟨startsBlank_append h.blank_gap h.gap_ne_nil body, rfl, rfl⟩
  rw [Cursor.past_past, List.append_assoc] at hgap
  rw [parse_positional]
  refine ⟨fun a c' => ?_, ?_⟩
  · rw [hskip.bind_accepts_iff, hflag.bind_accepts_iff, hgap.bind_accepts_iff]
    rfl
  · rw [hskip.bind_fails_iff, hflag.bind_fails_iff, hgap.bind_fails_iff]
    rfl

end Positional

/-! ## Arguments -/

section Argument

variable {a : Argument} {v : Value}

lemma Argument.orderly_positional (hkind : a.kind.attempt.Orderly) :
    (positional a.name a.kind).parse.Orderly :=
  Parse.hereditary_orderly.parse (Parse.hereditary_orderly.positional a.name hkind)

/-- An argument has its value, or none if it may be left out and is. -/
theorem Argument.accepts_parser_iff (hkind : a.kind.attempt.Orderly) :
    a.parser.parse.Accepts c v c' ↔
      (positional a.name a.kind).parse.Accepts c v c' ∨
        a.required = false ∧ v = .null ∧ c' = c ∧ (positional a.name a.kind).parse.Fails c := by
  unfold Argument.parser
  cases hrequired : a.required with
  | true =>
    rw [if_pos rfl]
    show Parse.Accepts ((positional a.name a.kind).parse >>= pure) c v c' ↔ _
    rw [bind_pure]
    simp
  | false =>
    have hpositional := Argument.orderly_positional hkind
    rw [if_neg Bool.false_ne_true]
    show Parse.Accepts ((optional (positional a.name a.kind)).parse >>= _) c v c' ↔ _
    rw [Parse.accepts_bind_iff]
    constructor
    · intro ⟨value, c₁, hvalue, hpure⟩
      obtain ⟨rfl, rfl⟩ := Parse.accepts_pure_iff.mp hpure
      cases value with
      | none =>
        obtain ⟨hc', hfails⟩ := (accepts_none_optional_iff hpositional).mp hvalue
        exact Or.inr ⟨rfl, rfl, hc', hfails⟩
      | some value => exact Or.inl ((accepts_some_optional_iff hpositional).mp hvalue)
    · intro h
      rcases h with h | ⟨-, hvalue, hc', hfails⟩
      · exact ⟨some v, c', (accepts_some_optional_iff hpositional).mpr h,
          Parse.accepts_pure_iff.mpr ⟨rfl, rfl⟩⟩
      · exact ⟨none, c, (accepts_none_optional_iff hpositional).mpr ⟨rfl, hfails⟩,
          Parse.accepts_pure_iff.mpr ⟨hvalue, hc'⟩⟩

/-- Only an argument that has to be given fails. -/
theorem Argument.fails_parser_iff :
    a.parser.parse.Fails c ↔ a.required = true ∧ (positional a.name a.kind).parse.Fails c := by
  unfold Argument.parser
  cases hrequired : a.required with
  | true =>
    rw [if_pos rfl]
    show Parse.Fails ((positional a.name a.kind).parse >>= pure) c ↔ _
    rw [bind_pure]
    simp
  | false =>
    rw [if_neg Bool.false_ne_true]
    refine iff_of_false ?_ (by simp)
    intro ⟨e, c', h⟩
    rcases Parse.rejects_bind_iff.mp h with h | ⟨value, c₁, -, h⟩
    · exact not_rejects_optional h
    · exact Parse.not_rejects_pure h

end Argument

end Parlance.Command
