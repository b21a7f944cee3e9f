import Parlance.ParseError

/-!
# Error reports

A report is the error's one line, a blank line, and the rows of the text around the place: up to
two before and two after the row at fault, which is marked, with a caret under the column.
An error that names no offset is reported by its line alone.
-/

namespace Parlance

namespace Report

/-- How many rows are shown before the row at fault, and how many after it. -/
def contextRows : Nat := 2

/-- The symbols of a text that start before the byte `offset`. -/
def startingBefore (offset : Nat) : List Char → List Char
  | [] => []
  | c :: text => if 0 < offset then c :: startingBefore (offset - c.utf8Size) text else []

/-- The rows of a text: what stands between its newlines. There is always at least one. -/
def rows : List Char → List (List Char)
  | [] => [[]]
  | c :: text =>
    if c = '\n' then [] :: rows text
    else match rows text with
      | [] => [[c]]
      | row :: rest => (c :: row) :: rest

/-- The number of the row that a byte offset lies in. An offset past the end lies in the last. -/
def rowAt (text : List Char) (offset : Nat) : Nat :=
  (startingBefore offset text).count '\n' + 1

/-- The column that a byte offset stands for. An offset past the end counts as the end, and one
inside a symbol as the first column. -/
def columnAt (text : List Char) (offset : Nat) : Nat :=
  let passed := startingBefore offset text
  if byteLength passed = min offset (byteLength text) then
    (passed.reverse.takeWhile (· ≠ '\n')).length + 1
  else 1

/-- A row without the carriage returns at its end. -/
def trimReturns (row : List Char) : List Char :=
  (row.reverse.dropWhile (· = '\r')).reverse

/-- What is printed before a row. -/
def margin (failing : Nat) (row : Nat) : String :=
  (if row = failing then "  > " else "    ") ++ toString row ++ " | "

/-- The lines printed for the row with number `row`: none if it is too far from the failing one,
and two if it is the failing one. -/
def linesFor (failing column : Nat) (row : Nat) (content : List Char) : List String :=
  if failing - contextRows ≤ row ∧ row ≤ failing + contextRows then
    let start := margin failing row
    let line := start ++ String.ofList (trimReturns content)
    if row = failing then
      [line, String.ofList (List.replicate (start.length + column - 1) ' ') ++ "^--- here"]
    else [line]
  else []

/-- The rows around the byte `offset`, with a caret under it. -/
def context (text : List Char) (offset : Nat) : List String :=
  let failing := rowAt text offset
  let column := columnAt text offset
  (rows text).zipIdx.flatMap fun (content, index) => linesFor failing column (index + 1) content

end Report

/-- The error together with the rows of `text` around it. -/
def ParseError.report (e : ParseError) (text : String) : String :=
  match e.offset? with
  | none => e.message
  | some offset => e.message ++ "\n\n" ++ "\n".intercalate (Report.context text.toList offset)

end Parlance
