import Parlance.Report
import Parlance.Proofs.Place
import Mathlib.Data.List.DropRight

/-!
# What a report shows

The rows of a report are found by a scan of their own, which counts newlines and bytes from the
start of the text, while a cursor carries its row and column from symbol to symbol. Both come to
the same: a text that is cut at the place of an error has the row at fault around the cut
(`exists_splitOn_append`), and what stands in front of the cut is what a cursor has read there.

An `Excerpt` is what a report shows of a text. `ParseError.report_shows_excerpt` says that every
report is the line of its error followed by the excerpt around the place of the error.
-/

namespace Parlance

namespace Report

/-! ## Rows -/

/-- What a text holds of its last row. -/
def lastRow (front : List Char) : List Char := front.rtakeWhile (· ≠ '\n')

/-- The bytes of rows that stand at the front of a text, each with the newline that ends it. -/
def byteLengthOfRows : List (List Char) → ℕ
  | [] => 0
  | row :: rows => byteLength row + 1 + byteLengthOfRows rows

lemma byteLengthOfRows_concat (above : List (List Char)) (row : List Char) :
    byteLengthOfRows (above ++ [row]) = byteLengthOfRows above + byteLength row + 1 := by
  induction above with
  | nil => simp [byteLengthOfRows]
  | cons first above ih =>
    rw [List.cons_append, byteLengthOfRows, byteLengthOfRows, ih]
    omega

lemma rows_eq_splitOn (text : List Char) : rows text = text.splitOn '\n' := by
  induction text with
  | nil => rfl
  | cons c text ih =>
    rw [rows, List.splitOn_cons_eq_if_modifyHead, ih]
    by_cases hc : c = '\n'
    · rw [if_pos hc, if_pos (beq_iff_eq.mpr hc)]
    · rw [if_neg hc, if_neg (by simpa using hc)]
      cases hrows : text.splitOn '\n' with
      | nil => exact absurd hrows (List.splitOn_ne_nil _ _)
      | cons row rest => rfl

lemma lastRow_append_newline (front : List Char) : lastRow (front ++ ['\n']) = [] := by
  unfold lastRow
  exact List.rtakeWhile_concat_neg _ _ _ (by simp)

lemma lastRow_append_of_ne (front : List Char) {c : Char} (hc : c ≠ '\n') :
    lastRow (front ++ [c]) = lastRow front ++ [c] := by
  unfold lastRow
  exact List.rtakeWhile_concat_pos _ _ _ (by simpa using hc)

lemma length_lastRow (front : List Char) :
    (lastRow front).length = (front.reverse.takeWhile (· ≠ '\n')).length := by
  unfold lastRow List.rtakeWhile
  exact List.length_reverse

/-- Where a text is cut in two, the row around the cut takes its end from the part behind, and
all rows above it lie in the part in front. -/
lemma exists_splitOn_append (front back : List Char) :
    ∃ before, before.length = front.count '\n'
      ∧ byteLengthOfRows before + byteLength (lastRow front) = byteLength front
      ∧ (front ++ back).splitOn '\n'
          = before ++ (back.splitOn '\n').modifyHead (lastRow front ++ ·) := by
  induction front using List.reverseRecOn generalizing back with
  | nil =>
    have hsame : (lastRow [] ++ · : List Char → List Char) = id := rfl
    exact ⟨[], rfl, rfl, by rw [hsame, List.modifyHead_id]; rfl⟩
  | append_singleton front c ih =>
    obtain ⟨before, hlength, hbytes, hsplit⟩ := ih (c :: back)
    rw [List.splitOn_cons_eq_if_modifyHead] at hsplit
    have happend : front ++ [c] ++ back = front ++ c :: back := by simp
    have hsize : byteLength (front ++ [c]) = byteLength front + c.utf8Size := by
      simp [byteLength_append]
    rw [happend, hsplit, hsize, ← hbytes]
    by_cases hc : c = '\n'
    · -- the newline closes the row, which becomes one of the rows above
      subst hc
      refine ⟨before ++ [lastRow front], ?_, ?_, ?_⟩
      · simp [hlength]
      · rw [lastRow_append_newline]
        simp [byteLengthOfRows_concat, show '\n'.utf8Size = 1 from rfl]
      · rw [if_pos (beq_self_eq_true _), lastRow_append_newline]
        cases hrows : back.splitOn '\n' with
        | nil => exact absurd hrows (List.splitOn_ne_nil _ _)
        | cons row rest => simp
    · refine ⟨before, ?_, ?_, ?_⟩
      · simp [hlength, hc]
      · rw [lastRow_append_of_ne front hc]
        simp [byteLength_append, Nat.add_assoc]
      · rw [if_neg (by simpa using hc), lastRow_append_of_ne front hc]
        cases hrows : back.splitOn '\n' with
        | nil => exact absurd hrows (List.splitOn_ne_nil _ _)
        | cons row rest => simp

/-! ## The place of an offset -/

/-- The scan of a report passes the symbols that a cursor reads on the way to the offset. -/
lemma startingBefore_eq_takeBytes (offset : ℕ) (text : List Char) :
    startingBefore offset text = takeBytes offset text := by
  induction text generalizing offset with
  | nil => rw [takeBytes_nil, startingBefore]
  | cons c text ih =>
    rw [startingBefore]
    by_cases hpos : 0 < offset
    · rw [if_pos hpos, ih, takeBytes_cons c text (by omega)]
    · have hzero : offset = 0 := by omega
      rw [if_neg hpos, hzero, takeBytes_zero]

/-- The row around the end of what is passed holds the byte at the offset. -/
lemma byteLengthOfRows_le {offset : ℕ} {text : List Char} {before : List (List Char)}
    (hbytes : byteLengthOfRows before + byteLength (lastRow (takeBytes offset text))
      = byteLength (takeBytes offset text)) :
    byteLengthOfRows before ≤ min offset (byteLength text) := by
  obtain ⟨rest, hrest⟩ := takeBytes_prefix offset text
  have htext : byteLength text = byteLength (takeBytes offset text) + byteLength rest := by
    rw [← byteLength_append, hrest]
  cases hpassed : takeBytes offset text using List.reverseRecOn with
  | nil =>
    rw [hpassed] at hbytes
    simp only [byteLength, Nat.add_eq_zero_iff] at hbytes
    omega
  | append_singleton front c =>
    have hlt := byteLength_lt_of_takeBytes_eq hpassed
    rw [hpassed, byteLength_append, byteLength, byteLength] at hbytes htext
    by_cases hc : c = '\n'
    · have hsize : c.utf8Size = 1 := by
        rw [hc]
        rfl
      omega
    · -- the row holds the symbol that reaches the offset, so it starts in front of it
      have hrow : byteLength (lastRow (front ++ [c])) = byteLength (lastRow front) + c.utf8Size := by
        rw [lastRow_append_of_ne front hc, byteLength_append, byteLength, byteLength]
        rfl
      omega

/-! ## The lines of a context -/

/-- The rows around the one at fault, each with its number, and the column at fault. -/
structure Excerpt where
  above : List (List Char × ℕ)
  row : List Char
  number : ℕ
  below : List (List Char × ℕ)
  column : ℕ

/-- What is printed of a row. -/
def printed (row : List Char) : List Char := row.rdropWhile (· = '\r')

/-- The line for a row that is not at fault. -/
def plainLine (row : List Char × ℕ) : String :=
  "    " ++ toString row.2 ++ " | " ++ String.ofList (printed row.1)

namespace Excerpt

/-- What is printed before the row at fault. -/
def markedMargin (x : Excerpt) : String := "  > " ++ toString x.number ++ " | "

/-- The line for the row at fault. -/
def markedLine (x : Excerpt) : String := x.markedMargin ++ String.ofList (printed x.row)

/-- The line below it, with the caret. -/
def caretLine (x : Excerpt) : String :=
  String.ofList (List.replicate (x.markedMargin.length + x.column - 1) ' ') ++ "^--- here"

/-- The lines of an excerpt. -/
def lines (x : Excerpt) : List String :=
  x.above.map plainLine ++ [x.markedLine, x.caretLine] ++ x.below.map plainLine

/-- What an excerpt of `text` around the byte `target` is. -/
structure Surrounds (x : Excerpt) (text : List Char) (target : ℕ) : Prop where
  /-- It has the rows whose number differs by at most two. -/
  rows_eq : ((text.splitOn '\n').zipIdx 1).filter
      (fun row => row.2 ≤ x.number + 2 ∧ x.number ≤ row.2 + 2)
    = x.above ++ (x.row, x.number) :: x.below
  /-- They stand in ascending order. -/
  ascending : ((x.above ++ (x.row, x.number) :: x.below).map Prod.snd).Pairwise (· < ·)
  /-- The byte lies in the row at fault, or is the newline that ends it. -/
  holds_target : ∃ before after, text.splitOn '\n' = before ++ x.row :: after
    ∧ x.number = before.length + 1
    ∧ byteLengthOfRows before ≤ target
    ∧ target ≤ byteLengthOfRows before + byteLength x.row
  /-- At a boundary between symbols, the row and the column at fault are those of a cursor that
  has advanced to it, and the caret is under the symbol there if that symbol is printed. -/
  points : ∀ front back, text = front ++ back → byteLength front = target →
    ∃ c, c = (fun c : Cursor => c.advance.2)^[front.length] (Cursor.ofSymbols text)
      ∧ c.offset = target ∧ c.position.row = x.number ∧ c.position.column = x.column
      ∧ ∀ symbol rest, back = symbol :: rest → x.column ≤ (printed x.row).length →
          x.markedLine.toList[x.markedMargin.length + x.column - 1]? = some symbol

end Excerpt

/-- A row that is not at fault has its line if it is near. -/
lemma flatMap_linesFor {failing : ℕ} (column : ℕ) {numbered : List (List Char × ℕ)}
    (h : ∀ row ∈ numbered, row.2 ≠ failing) :
    numbered.flatMap (fun row => linesFor failing column row.2 row.1)
      = (numbered.filter fun row => row.2 ≤ failing + 2 ∧ failing ≤ row.2 + 2).map plainLine := by
  induction numbered with
  | nil => rfl
  | cons row numbered ih =>
    have hne : row.2 ≠ failing := h row List.mem_cons_self
    have hrest := ih fun other hother => h other (List.mem_cons_of_mem row hother)
    rw [List.flatMap_cons, hrest, List.filter_cons]
    unfold linesFor contextRows
    by_cases hnear : row.2 ≤ failing + 2 ∧ failing ≤ row.2 + 2
    · rw [if_pos (by omega), if_neg hne, if_pos (decide_eq_true hnear)]
      unfold margin
      rw [if_neg hne]
      rfl
    · rw [if_neg (by omega), if_neg (by simpa using hnear), List.nil_append]

/-- A row at fault has two lines. -/
lemma linesFor_self (x : Excerpt) :
    linesFor x.number x.column x.number x.row = [x.markedLine, x.caretLine] := by
  have hnear : x.number - contextRows ≤ x.number ∧ x.number ≤ x.number + contextRows := by omega
  unfold linesFor
  rw [if_pos hnear, if_pos rfl]
  unfold margin
  rw [if_pos rfl]
  rfl

/-! ## Excerpts -/

namespace Excerpt

/-- The excerpt around a row, of all rows of a text. -/
def around (before : List (List Char)) (row : List Char) (after : List (List Char))
    (column : ℕ) : Excerpt where
  above := (before.zipIdx 1).filter
    fun other => other.2 ≤ before.length + 3 ∧ before.length + 1 ≤ other.2 + 2
  row := row
  number := before.length + 1
  below := (after.zipIdx (before.length + 2)).filter
    fun other => other.2 ≤ before.length + 3 ∧ before.length + 1 ≤ other.2 + 2
  column := column

variable (before : List (List Char)) (row : List Char) (after : List (List Char)) (column : ℕ)

lemma zipIdx_append_cons :
    (before ++ row :: after).zipIdx 1
      = before.zipIdx 1 ++ (row, before.length + 1) :: after.zipIdx (before.length + 2) := by
  rw [List.zipIdx_append, List.zipIdx_cons, Nat.add_comm 1]

lemma filter_zipIdx_eq :
    ((before ++ row :: after).zipIdx 1).filter
        (fun other => other.2 ≤ before.length + 3 ∧ before.length + 1 ≤ other.2 + 2)
      = (around before row after column).above
        ++ (row, before.length + 1) :: (around before row after column).below := by
  rw [zipIdx_append_cons, List.filter_append, List.filter_cons_of_pos (by simp)]
  rfl

/-- The lines for the rows of a text are those of the excerpt around the row at fault. -/
lemma flatMap_zipIdx_eq_lines :
    ((before ++ row :: after).zipIdx 1).flatMap
        (fun other => linesFor (before.length + 1) column other.2 other.1)
      = (around before row after column).lines := by
  have habove : ∀ other ∈ before.zipIdx 1, other.2 ≠ before.length + 1 := by
    intro other hother
    have hlt := List.snd_lt_add_of_mem_zipIdx hother
    omega
  have hbelow : ∀ other ∈ after.zipIdx (before.length + 2), other.2 ≠ before.length + 1 := by
    intro other hother
    have hle := List.le_snd_of_mem_zipIdx hother
    omega
  rw [zipIdx_append_cons, List.flatMap_append, List.flatMap_cons, flatMap_linesFor column habove,
    flatMap_linesFor column hbelow]
  have hself := linesFor_self (around before row after column)
  rw [show linesFor (before.length + 1) column (row, before.length + 1).2 (row, before.length + 1).1
    = _ from hself, ← List.append_assoc]
  rfl

lemma ascending_around :
    (((around before row after column).above
      ++ (row, before.length + 1) :: (around before row after column).below).map
        Prod.snd).Pairwise (· < ·) := by
  rw [← filter_zipIdx_eq]
  have hsub := (List.filter_sublist (l := (before ++ row :: after).zipIdx 1)
    (p := fun other => other.2 ≤ before.length + 3 ∧ before.length + 1 ≤ other.2 + 2)).map Prod.snd
  rw [List.zipIdx_map_snd] at hsub
  exact (List.pairwise_lt_range' 1).sublist hsub

/-- The symbol at its place in the row has the caret below it, if it is printed. -/
lemma getElem?_markedLine (x : Excerpt) {read rest : List Char} {symbol : Char}
    (hrow : x.row = read ++ symbol :: rest) (hprinted : read.length < (printed x.row).length) :
    x.markedLine.toList[x.markedMargin.length + read.length]? = some symbol := by
  have hprefix : printed x.row <+: x.row := List.rdropWhile_prefix _ _
  have hsymbol : (printed x.row)[read.length]? = some symbol := by
    have hkept := List.prefix_iff_getElem?.mp hprefix read.length hprinted
    rw [List.getElem?_eq_getElem hprinted, ← hkept, hrow]
    simp
  unfold markedLine
  rw [String.toList_append, String.toList_ofList, ← String.length_toList,
    List.getElem?_append_right (Nat.le_add_right _ _), Nat.add_sub_cancel_left, hsymbol]

end Excerpt

/-- The lines of a context are those of the excerpt around its row. -/
lemma context_eq_lines {text : List Char} {offset : ℕ} {before after : List (List Char)}
    {row : List Char} (hrows : text.splitOn '\n' = before ++ row :: after)
    (hnumber : rowAt text offset = before.length + 1) :
    context text offset = (Excerpt.around before row after (columnAt text offset)).lines := by
  rw [← Excerpt.flatMap_zipIdx_eq_lines, List.zipIdx_succ, List.flatMap_map, ← hrows,
    ← rows_eq_splitOn, ← hnumber]
  rfl

/-- At a boundary, the column at fault is the one behind what its row has in front of it. -/
lemma columnAt_of_byteLength_eq {offset : ℕ} {front back : List Char}
    (h : byteLength front = min offset (byteLength (front ++ back))) :
    columnAt (front ++ back) offset = (lastRow front).length + 1 := by
  unfold columnAt
  rw [startingBefore_eq_takeBytes, takeBytes_of_byteLength_eq h, length_lastRow]
  exact if_pos h

/-- What is ahead of a cut goes on in the row of the cut, unless a newline ends that row. -/
lemma exists_eq_cons_of_splitOn {symbol : Char} {rest first : List Char}
    {after : List (List Char)} (h : (symbol :: rest).splitOn '\n' = first :: after)
    (hfirst : first ≠ []) : ∃ more, first = symbol :: more := by
  rw [List.splitOn_cons_eq_if_modifyHead] at h
  by_cases hsymbol : symbol = '\n'
  · rw [if_pos (beq_iff_eq.mpr hsymbol)] at h
    exact absurd (List.cons.inj h).1.symm hfirst
  · rw [if_neg (by simpa using hsymbol)] at h
    cases hrows : rest.splitOn '\n' with
    | nil => exact absurd hrows (List.splitOn_ne_nil _ _)
    | cons row rows =>
      rw [hrows, List.modifyHead_cons] at h
      exact ⟨row, (List.cons.inj h).1.symm⟩

/-- The caret is under the symbol ahead of a cut, if it is printed. -/
lemma caret_under {x : Excerpt} {front first : List Char} {symbol : Char} {rest : List Char}
    {after : List (List Char)} (hrow : x.row = lastRow front ++ first)
    (hcolumn : x.column = (lastRow front).length + 1)
    (hrows : (symbol :: rest).splitOn '\n' = first :: after)
    (hprinted : x.column ≤ (printed x.row).length) :
    x.markedLine.toList[x.markedMargin.length + x.column - 1]? = some symbol := by
  have hlt : (lastRow front).length < (printed x.row).length := by omega
  have hle : (printed x.row).length ≤ x.row.length := (List.rdropWhile_prefix _ _).length_le
  have hfirst : first ≠ [] := by
    rintro rfl
    rw [List.append_nil] at hrow
    rw [hrow] at hle hlt
    omega
  obtain ⟨more, rfl⟩ := exists_eq_cons_of_splitOn hrows hfirst
  have hindex : x.markedMargin.length + x.column - 1
      = x.markedMargin.length + (lastRow front).length := by omega
  rw [hindex]
  exact x.getElem?_markedLine hrow hlt

/-- An excerpt whose row is around a cut of the text has the row and the column that a cursor has
at the cut. -/
lemma points_of_cut {x : Excerpt} {front ahead first : List Char} {after : List (List Char)}
    (hrow : x.row = lastRow front ++ first) (hnumber : x.number = front.count '\n' + 1)
    (hcolumn : x.column = (lastRow front).length + 1)
    (hrows : ahead.splitOn '\n' = first :: after) :
    ∃ c, c = (fun c : Cursor => c.advance.2)^[front.length] (Cursor.ofSymbols (front ++ ahead))
      ∧ c.offset = byteLength front ∧ c.position.row = x.number ∧ c.position.column = x.column
      ∧ ∀ symbol rest, ahead = symbol :: rest → x.column ≤ (printed x.row).length →
          x.markedLine.toList[x.markedMargin.length + x.column - 1]? = some symbol := by
  have hplace := Cursor.place_past_ofSymbols front ahead
  have hahead : (Cursor.ofSymbols (front ++ ahead)).ahead = front ++ ahead := rfl
  refine ⟨_, rfl, ?_⟩
  rw [Cursor.iterate_advance hahead, Cursor.position, hplace]
  refine ⟨Cursor.offset_of_place_eq hplace, ?_, ?_, ?_⟩
  · show 1 + front.count '\n' = x.number
    omega
  · show 1 + (front.reverse.takeWhile (· ≠ '\n')).length = x.column
    rw [hcolumn, length_lastRow, Nat.add_comm]
  · rintro symbol rest rfl hprinted
    exact caret_under hrow hcolumn hrows hprinted

/-- A context shows the excerpt of a text around the byte at the offset, or around the end. -/
lemma exists_surrounds (text : List Char) (offset : ℕ) :
    ∃ x : Excerpt, x.Surrounds text (min offset (byteLength text))
      ∧ context text offset = x.lines := by
  obtain ⟨ahead, hahead⟩ := takeBytes_prefix offset text
  obtain ⟨before, hlength, hbytes, hsplit⟩ := exists_splitOn_append (takeBytes offset text) ahead
  cases hrows : ahead.splitOn '\n' with
  | nil => exact absurd hrows (List.splitOn_ne_nil _ _)
  | cons first after =>
    rw [hahead, hrows, List.modifyHead_cons] at hsplit
    have hnumber : rowAt text offset = before.length + 1 := by
      rw [rowAt, startingBefore_eq_takeBytes, hlength]
    refine ⟨Excerpt.around before (lastRow (takeBytes offset text) ++ first) after
      (columnAt text offset), ⟨?_, ?_, ?_, ?_⟩, context_eq_lines hsplit hnumber⟩
    · rw [hsplit]
      exact Excerpt.filter_zipIdx_eq _ _ _ _
    · exact Excerpt.ascending_around _ _ _ _
    · have hreached := min_le_byteLength_takeBytes offset text
      have hrow : byteLength (lastRow (takeBytes offset text) ++ first)
          = byteLength (lastRow (takeBytes offset text)) + byteLength first :=
        byteLength_append _ _
      have hend : min offset (byteLength text)
          ≤ byteLengthOfRows before + byteLength (lastRow (takeBytes offset text) ++ first) := by
        omega
      exact ⟨before, after, hsplit, rfl, byteLengthOfRows_le hbytes, hend⟩
    · rintro front back rfl hfront
      -- what is passed is what stands in front of the boundary
      have hpassed := takeBytes_of_byteLength_eq hfront
      rw [hpassed] at hahead hlength ⊢
      obtain rfl : ahead = back := List.append_cancel_left hahead
      rw [← hfront]
      refine points_of_cut rfl ?_ (columnAt_of_byteLength_eq hfront) hrows
      show before.length + 1 = _
      rw [hlength]

end Report

/-- A report is the line of its error and the excerpt of the text around the place of the error,
which counts as the end of the text if it lies past it. -/
theorem ParseError.report_shows_excerpt (e : ParseError) (text : String) {offset : ℕ}
    (h : e.offset? = some offset) :
    ∃ x : Report.Excerpt, x.Surrounds text.toList (min offset (byteLength text.toList))
      ∧ e.report text = e.message ++ "\n\n" ++ "\n".intercalate x.lines := by
  obtain ⟨x, hx, hlines⟩ := Report.exists_surrounds text.toList offset
  refine ⟨x, hx, ?_⟩
  unfold ParseError.report
  rw [h, ← hlines]

/-- The report of an error at a symbol of two bytes, in a row whose number takes two digits and
which ends in carriage returns. -/
theorem ParseError.report_shows_excerpt_row_ten :
    let e := ParseError.unexpectedEnd 27 "letter"
    let text := "1\n2\n3\n4\n5\n6\n7\n8\nneun\r\nzehn ö\r\r\nelf\n"
    e.offset? = some 27
      ∧ ∃ x : Report.Excerpt, x.Surrounds text.toList (min 27 (byteLength text.toList))
        ∧ e.report text = e.message ++ "\n\n" ++ "\n".intercalate x.lines :=
  ⟨rfl, ParseError.report_shows_excerpt _ _ rfl⟩

example :
    (ParseError.unexpectedEnd 27 "letter").report
        "1\n2\n3\n4\n5\n6\n7\n8\nneun\r\nzehn ö\r\r\nelf\n"
      = "Unexpected end of input at index 27, expected letter\n\n"
        ++ "    8 | 8\n    9 | neun\n  > 10 | zehn ö\n              ^--- here\n    11 | elf\n"
        ++ "    12 | " := by
  decide +kernel

end Parlance
