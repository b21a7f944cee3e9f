import Parlance.Proofs.Token.Blank
import Parlance.Proofs.Token.Verbatim
import Parlance.Token.Quoted

/-!
# What quoted strings read

Between two delimiters, single symbols are read for as long as there are any: an escape if the text
goes on with one, and otherwise any symbol but the delimiter. Trying the one and then the other at
each place comes to one pass over the text from left to right, `scanQuoted`, in which a backslash and
the letter of an escape are taken together whatever the delimiter is (`scans_ahead`). A quoted
string is what this pass makes of the text behind its opening delimiter (`Grammar.quoted_scans`).
-/

namespace Parlance.Token

open Parlance.Parser

variable {c c' : Cursor} {delimiter x y meant : Char} {text rest : List Char}

/-! ## One pass -/

/-- The symbol that `x` and `y` stand for, if they are an escape. -/
def escape? (x y : Char) : Option Char :=
  if x ≠ '\\' then none
  else if y = '"' ∨ y = '\'' ∨ y = '\\' then some y
  else if y = 'n' then some '\n'
  else if y = 't' then some '\t'
  else if y = 'r' then some '\r'
  else none

/-- Goes through the text behind an opening delimiter: the symbols that are meant up to the closing
one, and the text behind that. There is nothing if no delimiter closes. -/
def scanQuoted (delimiter : Char) : List Char → Option (List Char × List Char)
  | [] => none
  | [x] => if x = delimiter then some ([], []) else none
  | x :: y :: text =>
    match escape? x y with
    | some meant =>
      (scanQuoted delimiter text).map fun (symbols, rest) => (meant :: symbols, rest)
    | none =>
      if x = delimiter then some ([], y :: text)
      else (scanQuoted delimiter (y :: text)).map fun (symbols, rest) => (x :: symbols, rest)

lemma escape?_of_ne (hx : x ≠ '\\') : escape? x y = none := if_pos hx

/-- The symbol that the escape stands for with which a text begins. -/
def escapeAhead? : List Char → Option Char
  | x :: y :: _ => escape? x y
  | _ => none

section Pass

variable (delimiter : Char)

/-- An escape is taken as a whole. -/
lemma scanQuoted_of_escape (text : List Char) (h : escape? x y = some meant) :
    scanQuoted delimiter (x :: y :: text)
      = (scanQuoted delimiter text).map fun (symbols, rest) => (meant :: symbols, rest) := by
  simp only [scanQuoted, h]

/-- A delimiter that is not the backslash of an escape closes. -/
lemma scanQuoted_of_delimiter (hno : escapeAhead? (delimiter :: text) = none) :
    scanQuoted delimiter (delimiter :: text) = some ([], text) := by
  cases text with
  | nil => exact if_pos rfl
  | cons y text =>
    have hnone : escape? delimiter y = none := hno
    simp only [scanQuoted, hnone, if_true]

/-- Any other symbol stands for itself. -/
lemma scanQuoted_of_ne (hno : escapeAhead? (x :: text) = none) (hx : x ≠ delimiter) :
    scanQuoted delimiter (x :: text)
      = (scanQuoted delimiter text).map fun (symbols, rest) => (x :: symbols, rest) := by
  cases text with
  | nil => exact if_neg hx
  | cons y text =>
    have hnone : escape? x y = none := hno
    simp only [scanQuoted, hnone, if_neg hx]

end Pass

/-! ## Escapes -/

/-- A letter behind a backslash makes an escape if it is one of those that may follow it. -/
lemma find?_escapeLetters (x : Char) (rest : List Char) :
    escapeLetters.find? (fun text => text.toList.isPrefixOf (x :: rest))
      = (escape? '\\' x).map fun _ => String.singleton x := by
  by_cases hx : x ∈ ['"', '\'', '\\', 'n', 't', 'r']
  · simp only [List.mem_cons, List.not_mem_nil, or_false] at hx
    rcases hx with rfl | rfl | rfl | rfl | rfl | rfl <;> rfl
  · simp only [List.mem_cons, List.not_mem_nil, or_false, not_or] at hx
    obtain ⟨hdouble, hsingle, hslash, hn, ht, hr⟩ := hx
    simp [escapeLetters, escape?, hdouble, hsingle, hslash, hn, ht, hr, Ne.symm hdouble,
      Ne.symm hsingle, Ne.symm hslash, Ne.symm hn, Ne.symm ht, Ne.symm hr]

lemma unescape_singleton (h : escape? '\\' y = some meant) :
    unescape (String.singleton y) = meant := by
  by_cases hy : y ∈ ['"', '\'', '\\', 'n', 't', 'r']
  · simp only [List.mem_cons, List.not_mem_nil, or_false] at hy
    rcases hy with rfl | rfl | rfl | rfl | rfl | rfl <;> exact Option.some.inj h
  · simp only [List.mem_cons, List.not_mem_nil, or_false, not_or] at hy
    obtain ⟨hdouble, hsingle, hslash, hn, ht, hr⟩ := hy
    simp [escape?, hdouble, hsingle, hslash, hn, ht, hr] at h

section Inside

variable (hverbatim : c.isVerbatim = true)

include hverbatim

/-- What follows a backslash is looked for where it stands. -/
lemma approach_escapeLetters :
    ∀ text ∈ escapeLetters, (literal text).approach c = c :=
  fun _ _ => approach_of_isVerbatim _ hverbatim

/-- An escape is read as the symbol it stands for. -/
lemma accepts_escape (hahead : c.ahead = x :: y :: rest) (h : escape? x y = some meant) :
    escape.parse.Accepts c meant (c.past [x, y]) := by
  obtain rfl : x = '\\' := by
    by_contra hx
    rw [escape?_of_ne hx] at h
    cases h
  have hopen : c.enterVerbatim.ahead = "\\".toList ++ y :: rest := hahead
  have hslash : (literal "\\").parse.Accepts c.enterVerbatim "\\"
      (c.enterVerbatim.past "\\".toList) :=
    accepts_literal_of_isVerbatim c.isVerbatim_enterVerbatim hopen
  have hletter : (pick (escapeLetters.map literal)).parse.Accepts (c.enterVerbatim.past ['\\'])
      (String.singleton y) ((c.enterVerbatim.past ['\\']).past [y]) := by
    have hbehind : (c.enterVerbatim.past ['\\']).ahead = y :: rest := Cursor.ahead_past_of_eq hopen
    rw [accepts_pick_literals_iff (approach_escapeLetters (c := c.enterVerbatim.past ['\\'])
      c.isVerbatim_enterVerbatim), hbehind, find?_escapeLetters, h]
    exact ⟨rfl, by simp⟩
  rw [← unescape_singleton h]
  refine Parse.Accepts.bind ?_ (Parse.accepts_pure_iff.mpr ⟨rfl, rfl⟩)
  show Parse.Accepts (Parse.verbatim _) (approach _ c) _ _
  rw [approach_of_isVerbatim _ hverbatim, Parse.accepts_verbatim_iff]
  exact ⟨_, hslash.bind hletter, (c.past_past ['\\'] [y]).symm⟩

/-- Where the text does not go on with an escape, none is read. -/
lemma fails_escape (hno : escapeAhead? c.ahead = none) : escape.parse.Fails c := by
  refine Parse.Fails.bind ?_ _
  show Parse.Fails (Parse.verbatim _) (approach _ c)
  rw [approach_of_isVerbatim _ hverbatim, Parse.fails_verbatim_iff]
  by_cases hslash : ['\\'] <+: c.ahead
  · obtain ⟨rest, hrest⟩ := hslash
    have hahead : c.enterVerbatim.ahead = ['\\'] ++ rest := hrest.symm
    have hread : (literal "\\").parse.Accepts c.enterVerbatim "\\"
        (c.enterVerbatim.past ['\\']) :=
      accepts_literal_of_isVerbatim c.isVerbatim_enterVerbatim hahead
    refine hread.bind_fails ?_
    show (pick (escapeLetters.map literal)).parse.Fails _
    rw [fails_pick_literals_iff (approach_escapeLetters (c := c.enterVerbatim.past ['\\'])
        c.isVerbatim_enterVerbatim),
      Cursor.ahead_past_of_eq hahead]
    rw [← hrest] at hno
    cases rest with
    | nil => decide
    | cons y rest =>
      have hnone : escape? '\\' y = none := hno
      rw [find?_escapeLetters, hnone, Option.map_none]
  · refine Parse.Fails.bind (fails_literal_iff.mpr ?_) _
    rwa [approach_of_isVerbatim _ c.isVerbatim_enterVerbatim]

/-! ## Single symbols -/

lemma accepts_quotedSymbol (hahead : c.ahead = x :: rest) (hx : x ≠ delimiter) :
    (quotedSymbol delimiter).parse.Accepts c x (c.past [x]) := by
  have hadvance := Parse.accepts_advance c
  rw [Cursor.advance_of_cons hahead] at hadvance
  show Parse.Accepts (Parse.advance >>= _) ((quotedSymbol delimiter).approach c) x _
  rw [approach_of_isVerbatim _ hverbatim]
  apply hadvance.bind
  dsimp only
  rw [if_neg hx]
  exact Parse.accepts_pure_iff.mpr ⟨rfl, rfl⟩

/-- A delimiter is no symbol of a quoted string, and neither is the end of the text. -/
lemma fails_quotedSymbol (hahead : ∀ x rest, c.ahead = x :: rest → x = delimiter) :
    (quotedSymbol delimiter).parse.Fails c := by
  have hadvance := Parse.accepts_advance c
  show Parse.Fails (Parse.advance >>= _) ((quotedSymbol delimiter).approach c)
  rw [approach_of_isVerbatim _ hverbatim]
  cases hnext : c.ahead with
  | nil =>
    rw [Cursor.advance_of_nil hnext] at hadvance
    exact hadvance.bind_fails (Parse.fails_fail _ _)
  | cons x rest =>
    rw [Cursor.advance_of_cons hnext] at hadvance
    apply hadvance.bind_fails
    dsimp only
    rw [if_pos (hahead x rest hnext)]
    exact Parse.fails_fail _ _

end Inside

/-- One symbol of a quoted string. -/
def quotedPart (delimiter : Char) : Parser Char := pick [escape, quotedSymbol delimiter]

lemma orderly_quotedParts (delimiter : Char) :
    ∀ p ∈ [escape, quotedSymbol delimiter], p.parse.Orderly := by
  have hall := Parse.hereditary_orderly
  refine List.forall_mem_cons.mpr ⟨hall.parse hall.escape, ?_⟩
  exact List.forall_mem_singleton.mpr (hall.parse (hall.quotedSymbol delimiter))

lemma orderly_quotedPart (delimiter : Char) : (quotedPart delimiter).parse.Orderly := by
  have hall := Parse.hereditary_orderly
  exact hall.parse (hall.pickPair hall.escape (hall.quotedSymbol delimiter))

section Inside

variable (hverbatim : c.isVerbatim = true)

include hverbatim

/-- An escape is read as such, before its backslash is taken for itself or for the delimiter. -/
lemma accepts_quotedPart_of_escape (hahead : c.ahead = x :: y :: rest)
    (h : escape? x y = some meant) :
    (quotedPart delimiter).parse.Accepts c meant (c.past [x, y]) :=
  (accepts_pick_iff (orderly_quotedParts delimiter)).mpr
    ⟨[], escape, _, rfl, List.forall_mem_nil _, accepts_escape hverbatim hahead h⟩

/-- Without an escape the symbol is read as it is. -/
lemma accepts_quotedPart_of_ne (hahead : c.ahead = x :: rest)
    (hno : escapeAhead? c.ahead = none) (hx : x ≠ delimiter) :
    (quotedPart delimiter).parse.Accepts c x (c.past [x]) :=
  (accepts_pick_iff (orderly_quotedParts delimiter)).mpr
    ⟨[escape], quotedSymbol delimiter, [], rfl,
      List.forall_mem_singleton.mpr (fails_escape hverbatim hno),
      accepts_quotedSymbol hverbatim hahead hx⟩

/-- At a delimiter that is no part of an escape, and at the end of the text, the symbols end. -/
lemma fails_quotedPart (hno : escapeAhead? c.ahead = none)
    (hahead : ∀ x rest, c.ahead = x :: rest → x = delimiter) :
    (quotedPart delimiter).parse.Fails c := by
  refine (fails_pick_iff (orderly_quotedParts delimiter)).mpr ?_
  refine List.forall_mem_cons.mpr ⟨fails_escape hverbatim hno, ?_⟩
  exact List.forall_mem_singleton.mpr (fails_quotedSymbol hverbatim hahead)

end Inside

/-! ## The symbols of a quoted string -/

/-- What the repetition of `symbols` has read of `text` when it ends: all that stands before the
closing delimiter, or the whole text if there is none. -/
inductive ScanEnds (delimiter : Char) (text symbols : List Char) : (inside : List Char) → Prop
  | closed {inside rest : List Char} : scanQuoted delimiter text = some (symbols, rest) →
    text = inside ++ delimiter :: rest → ScanEnds delimiter text symbols inside
  | unclosed : scanQuoted delimiter text = none → ScanEnds delimiter text symbols text

/-- A symbol in front, as it is written, is read first. -/
lemma ScanEnds.step {symbols inside : List Char} (h : ScanEnds delimiter text symbols inside)
    {written : List Char} (hstep : scanQuoted delimiter (written ++ text)
      = (scanQuoted delimiter text).map fun (symbols, rest) => (meant :: symbols, rest)) :
    ScanEnds delimiter (written ++ text) (meant :: symbols) (written ++ inside) := by
  cases h with
  | closed hscan htext =>
    refine .closed (by rw [hstep, hscan, Option.map_some]) ?_
    rw [htext, List.append_assoc]
  | unclosed hscan => exact .unclosed (by rw [hstep, hscan, Option.map_none])

/-- The repetition of single symbols ends where the pass over the text ahead of `c` does, and with
its symbols. -/
def Scans (delimiter : Char) (c : Cursor) : Prop :=
  ∃ symbols inside, Repeats (quotedPart delimiter) c symbols (c.past inside) ∧
    ScanEnds delimiter c.ahead symbols inside

lemma Scans.stop (hfails : (quotedPart delimiter).parse.Fails c)
    (hends : ScanEnds delimiter c.ahead [] []) : Scans delimiter c :=
  ⟨[], [], .stop hfails, hends⟩

lemma Scans.step {written : List Char} (hne : written ≠ []) (hahead : c.ahead = written ++ text)
    (hone : (quotedPart delimiter).parse.Accepts c meant (c.past written))
    (hstep : scanQuoted delimiter (written ++ text)
      = (scanQuoted delimiter text).map fun (symbols, rest) => (meant :: symbols, rest))
    (h : Scans delimiter (c.past written)) : Scans delimiter c := by
  obtain ⟨symbols, inside, hlater, hends⟩ := h
  rw [Cursor.past_past] at hlater
  rw [Cursor.ahead_past_of_eq hahead] at hends
  refine ⟨meant :: symbols, written ++ inside, .more hone (offset_past_ne c hne) hlater, ?_⟩
  rw [hahead]
  exact hends.step hstep

section Inside

variable (hverbatim : c.isVerbatim = true)

include hverbatim

lemma scans_at_end (hahead : c.ahead = []) : Scans delimiter c := by
  refine .stop (fails_quotedPart hverbatim (by rw [hahead]; rfl) (by simp [hahead])) ?_
  rw [hahead]
  exact .unclosed rfl

lemma scans_at_delimiter (hahead : c.ahead = delimiter :: rest)
    (hno : escapeAhead? (delimiter :: rest) = none) : Scans delimiter c := by
  refine .stop (fails_quotedPart hverbatim (by rwa [hahead]) fun x rest heq => ?_) ?_
  · exact (List.cons.inj (heq.symm.trans hahead)).1
  · rw [hahead]
    exact .closed (scanQuoted_of_delimiter delimiter hno) rfl

lemma scans_of_ne (hahead : c.ahead = x :: rest) (hno : escapeAhead? (x :: rest) = none)
    (hx : x ≠ delimiter) (h : Scans delimiter (c.past [x])) : Scans delimiter c :=
  .step (List.cons_ne_nil x []) hahead
    (accepts_quotedPart_of_ne hverbatim hahead (by rwa [hahead]) hx)
    (scanQuoted_of_ne delimiter hno hx) h

lemma scans_of_escape (hahead : c.ahead = x :: y :: rest) (hescape : escape? x y = some meant)
    (h : Scans delimiter (c.past [x, y])) : Scans delimiter c :=
  .step (List.cons_ne_nil x [y]) hahead (accepts_quotedPart_of_escape hverbatim hahead hescape)
    (scanQuoted_of_escape delimiter rest hescape) h

/-- Trying an escape and then a plain symbol, for as long as there is one, is one pass over the
text. -/
theorem scans_ahead (delimiter : Char) : Scans delimiter c := by
  -- the induction follows the pass, so that an escape is one step
  induction hahead : c.ahead using scanQuoted.induct delimiter generalizing c with
  | case1 => exact scans_at_end hverbatim hahead
  | case2 => exact scans_at_delimiter hverbatim hahead rfl
  | case3 x hx =>
    have hbehind : (c.past [x]).ahead = [] := Cursor.ahead_past_of_eq (t := [x]) hahead
    exact scans_of_ne hverbatim hahead rfl hx (scans_at_end hverbatim hbehind)
  | case4 x y text meant hescape ih =>
    have hbehind : (c.past [x, y]).ahead = text := Cursor.ahead_past_of_eq (t := [x, y]) hahead
    exact scans_of_escape hverbatim hahead hescape (ih hverbatim hbehind)
  | case5 y text hno => exact scans_at_delimiter hverbatim hahead hno
  | case6 x y text hno hx ih =>
    have hbehind : (c.past [x]).ahead = y :: text := Cursor.ahead_past_of_eq (t := [x]) hahead
    exact scans_of_ne hverbatim hahead hno hx (ih hverbatim hbehind)

end Inside

/-! ## Quoted strings -/

/-- The parts of a quoted string, which are read as one token. -/
def quotedToken (delimiter : Char) : Parser (List Char) :=
  few do
    let _ ← (symbol delimiter).parse
    let symbols ← (many (quotedPart delimiter)).parse
    let _ ← (symbol delimiter).parse
    pure symbols

section Inside

variable (hverbatim : c.isVerbatim = true) (hopen : c.ahead = delimiter :: text)

include hverbatim hopen

/-- Behind the opening delimiter the symbols are read up to where the pass ends. -/
lemma exists_accepts_symbols :
    ∃ symbols inside, ScanEnds delimiter text symbols inside ∧
      (symbol delimiter).parse.Accepts c delimiter (c.past [delimiter]) ∧
      (many (quotedPart delimiter)).parse.Accepts (c.past [delimiter]) symbols
        (c.past (delimiter :: inside)) := by
  obtain ⟨symbols, inside, hrepeats, hends⟩ :=
    scans_ahead (c := c.past [delimiter]) hverbatim delimiter
  rw [Cursor.ahead_past_of_eq (t := [delimiter]) hopen] at hends
  have hmany := hrepeats.accepts_many (orderly_quotedPart delimiter)
  rw [Cursor.past_past] at hmany
  refine ⟨symbols, inside, hends, ?_, hmany⟩
  exact (accepts_symbol_iff (approach_of_isVerbatim _ hverbatim)).mpr ⟨rfl, _, hopen, rfl⟩

/-- Where the pass ends at a closing delimiter, its symbols are the string. -/
lemma accepts_quotedToken {symbols : List Char}
    (hscan : scanQuoted delimiter text = some (symbols, rest)) :
    ∃ inside, text = inside ++ delimiter :: rest ∧
      (quotedToken delimiter).parse.Accepts c symbols
        (c.past (delimiter :: (inside ++ [delimiter]))) := by
  obtain ⟨symbols', inside, hends, hopening, hmany⟩ := exists_accepts_symbols hverbatim hopen
  cases hends with
  | unclosed hnone =>
    rw [hscan] at hnone
    cases hnone
  | closed hscan' htext =>
    rw [hscan, Option.some.injEq, Prod.mk.injEq] at hscan'
    obtain ⟨rfl, rfl⟩ := hscan'
    have hahead : c.ahead = (delimiter :: inside) ++ delimiter :: rest := by
      rw [hopen, htext]
      rfl
    have hclosing : (symbol delimiter).parse.Accepts (c.past (delimiter :: inside)) delimiter
        ((c.past (delimiter :: inside)).past [delimiter]) :=
      (accepts_symbol_iff (c := c.past (delimiter :: inside))
        (approach_of_isVerbatim _ hverbatim)).mpr
        ⟨rfl, rest, Cursor.ahead_past_of_eq hahead, rfl⟩
    rw [Cursor.past_past] at hclosing
    refine ⟨inside, htext, hopening.bind (hmany.bind (hclosing.bind ?_))⟩
    exact Parse.accepts_pure_iff.mpr ⟨rfl, rfl⟩

/-- Where no delimiter closes, the missing one is complained about at the end of the text. -/
lemma rejects_quotedToken (hscan : scanQuoted delimiter text = none) :
    (quotedToken delimiter).parse.Rejects c
      ((c.past c.ahead).unexpectedSymbol (rangeTag delimiter delimiter)) (c.past c.ahead) := by
  obtain ⟨symbols, inside, hends, hopening, hmany⟩ := exists_accepts_symbols hverbatim hopen
  cases hends with
  | closed hscan' _ =>
    rw [hscan] at hscan'
    cases hscan'
  | unclosed _ =>
    rw [← hopen] at hmany
    have hclosing := rejects_range_at_end delimiter delimiter (ahead_past_ahead c)
    exact hopening.bind_rejects (hmany.bind_rejects (hclosing.bind _))

end Inside

/-- Without an opening delimiter there is no quoted string. -/
lemma fails_quotedToken (hverbatim : c.isVerbatim = true)
    (hopen : ∀ text, c.ahead ≠ delimiter :: text) : (quotedToken delimiter).parse.Fails c := by
  have hopening := fails_symbol (approach_of_isVerbatim (symbol delimiter) hverbatim) hopen
  exact hopening.bind _

section Outcomes

variable {value : String}

lemma quoted_eq (delimiter : Char) :
    quoted delimiter
      = map "quoted" (verbatim (quotedToken delimiter))
          fun symbols => pure (String.ofList symbols) :=
  rfl

lemma accepts_quoted {symbols : List Char} (hopen : c.skipBlank.ahead = delimiter :: text)
    (hscan : scanQuoted delimiter text = some (symbols, rest)) :
    ∃ inside, text = inside ++ delimiter :: rest ∧
      (quoted delimiter).parse.Accepts c (String.ofList symbols)
        (c.skipBlank.past (delimiter :: (inside ++ [delimiter]))) := by
  obtain ⟨inside, htext, hread⟩ := accepts_quotedToken (c := c.skipBlank.enterVerbatim)
    c.skipBlank.isVerbatim_enterVerbatim hopen hscan
  rw [quoted_eq]
  exact ⟨inside, htext, accepts_token_iff.mpr ⟨symbols, _, hread, rfl, rfl⟩⟩

lemma rejects_quoted (hopen : c.skipBlank.ahead = delimiter :: text)
    (hscan : scanQuoted delimiter text = none) :
    (quoted delimiter).parse.Rejects c
      ((c.skipBlank.past c.skipBlank.ahead).unexpectedSymbol (rangeTag delimiter delimiter))
      (c.skipBlank.past c.skipBlank.ahead) := by
  have hread := rejects_quotedToken (c := c.skipBlank.enterVerbatim)
    c.skipBlank.isVerbatim_enterVerbatim hopen hscan
  rw [quoted_eq]
  exact rejects_token_iff.mpr ⟨_, hread, rfl⟩

lemma fails_quoted (hopen : ∀ text, c.skipBlank.ahead ≠ delimiter :: text) :
    (quoted delimiter).parse.Fails c := by
  rw [quoted_eq, fails_token_iff]
  exact fails_quotedToken c.skipBlank.isVerbatim_enterVerbatim hopen

/-- A quoted string is read exactly where one is opened and the pass finds its end. -/
theorem accepts_quoted_iff :
    (quoted delimiter).parse.Accepts c value c' ↔
      ∃ inside symbols rest, c.skipBlank.ahead = delimiter :: (inside ++ delimiter :: rest) ∧
        scanQuoted delimiter (inside ++ delimiter :: rest) = some (symbols, rest) ∧
        value = String.ofList symbols ∧
        c' = c.skipBlank.past (delimiter :: (inside ++ [delimiter])) := by
  constructor
  · intro h
    by_cases hopen : ∃ text, c.skipBlank.ahead = delimiter :: text
    · obtain ⟨text, hopen⟩ := hopen
      cases hscan : scanQuoted delimiter text with
      | none => exact absurd (rejects_quoted hopen hscan).fails h.not_fails
      | some ends =>
        obtain ⟨symbols, rest⟩ := ends
        obtain ⟨inside, rfl, hread⟩ := accepts_quoted hopen hscan
        obtain ⟨rfl, rfl⟩ := h.unique hread
        exact ⟨inside, symbols, rest, hopen, hscan, rfl, rfl⟩
    · exact absurd (fails_quoted fun text heq => hopen ⟨text, heq⟩) h.not_fails
  · rintro ⟨inside, symbols, rest, hopen, hscan, rfl, rfl⟩
    obtain ⟨inside', htext, hread⟩ := accepts_quoted hopen hscan
    obtain rfl := List.append_cancel_right htext
    exact hread

end Outcomes

end Parlance.Token

namespace Parlance.Grammar

open Parlance.Token

/-- A quoted string is read where the text behind any blanks, which are not skipped inside a
verbatim token, begins with the delimiter and one pass over what follows finds another that closes.
Its value is what the pass makes of the symbols between the two, and it ends behind the second. If
none closes, the whole text is read before it is rejected. -/
theorem quoted_scans (rules : Rules) (delimiter : Char) (c : Cursor) :
    let p := ((Grammar.quoted delimiter).parser rules).parse
    let start := c.skipBlank
    let last := start.past start.ahead
    (∀ v c', p.Accepts c v c' ↔
      ∃ inside symbols rest, start.ahead = delimiter :: (inside ++ delimiter :: rest) ∧
        scanQuoted delimiter (inside ++ delimiter :: rest) = some (symbols, rest) ∧
        v = .str (String.ofList symbols) ∧
        c' = start.past (delimiter :: (inside ++ [delimiter]))) ∧
    (∀ text, start.ahead = delimiter :: text → scanQuoted delimiter text = none →
      p.Rejects c (last.unexpectedSymbol (Parser.rangeTag delimiter delimiter)) last
        ∧ last.isAtEnd = true) ∧
    ((∀ text, start.ahead ≠ delimiter :: text) → p.Fails c) := by
  intro p start last
  refine ⟨fun v c' => ?_, fun text hopen hscan => ⟨?_, ?_⟩, fun hopen => ?_⟩
  · show ((Token.quoted delimiter).convert Value.str).parse.Accepts c v c' ↔ _
    rw [Parser.accepts_convert_iff]
    constructor
    · rintro ⟨value, hread, rfl⟩
      obtain ⟨inside, symbols, rest, hopen, hscan, rfl, rfl⟩ := accepts_quoted_iff.mp hread
      exact ⟨inside, symbols, rest, hopen, hscan, rfl, rfl⟩
    · rintro ⟨inside, symbols, rest, hopen, hscan, rfl, rfl⟩
      exact ⟨_, accepts_quoted_iff.mpr ⟨inside, symbols, rest, hopen, hscan, rfl, rfl⟩, rfl⟩
  · exact Parser.rejects_convert_iff.mpr (rejects_quoted hopen hscan)
  · rw [Cursor.isAtEnd]
    exact List.isEmpty_iff.mpr (Parser.ahead_past_ahead start)
  · exact Parser.fails_convert_iff.mpr (fails_quoted hopen)

/-- A backslash that closes: behind another one it is half of an escape. -/
example : scanQuoted '\\' "a\\\\b\\ c".toList = some ("a\\b".toList, " c".toList) := by decide

end Parlance.Grammar
