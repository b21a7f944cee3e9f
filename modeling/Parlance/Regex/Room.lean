import Parlance.Regex.Simplify

/-!
# The room that an expression takes

An expression is not accepted if its automaton is too large. The automaton reads bytes, forward to
find where a match ends and backward to find where it starts, and both have to stay within
`maxRoom`. A state takes 32 bytes, a way out by a range of bytes 8, and a way out without reading
4.

A set of symbols takes the automaton of its encodings: forward one in which equal states are
shared, backward a tree.
-/

namespace Parlance.Regex

/-- Which way an automaton goes through the text. -/
inductive Direction where
  | forward
  | backward
deriving DecidableEq, Repr

/-- The room for a state. -/
def stateRoom : Nat := 32

/-- The room for a way out by a range of bytes. -/
def byteRoom : Nat := 8

/-- The room for a way out without reading. -/
def forkRoom : Nat := 4

/-- The amounts in a list, taken together. -/
def total (amounts : List Nat) : Nat := amounts.foldl (· + ·) 0

/-! ## Ranges of code points as ranges of bytes -/

/-- A range of bytes for each place of an encoding. -/
abbrev ByteRanges : Type := List (UInt8 × UInt8)

/-- The last code points of those that are encoded in one, two and three bytes. -/
def lastOfLength : List Nat := [0x7F, 0x7FF, 0xFFFF]

/-- Where to cut a range of code points, as the last one in front of the cut, so that the pieces
come closer to having all combinations of their bytes. All code points of a piece have encodings
of the same length. If they differ in a byte, each byte behind it takes all values. -/
def cut? (low high : Nat) : Option Nat :=
  match lastOfLength.find? fun last => low ≤ last && last < high with
  | some last => some last
  | none =>
    if high ≤ 0x7F then none
    else
      [64, 64 * 64, 64 * 64 * 64].findSome? fun block =>
        if low / block = high / block then none
        else if low % block ≠ 0 then some (low / block * block + block - 1)
        else if high % block ≠ block - 1 then some (high / block * block - 1)
        else none

/-- Cuts a range of code points, `depth` times at most, until no piece is to be cut. -/
def pieces : (depth : Nat) → (low high : Nat) → List (Nat × Nat)
  | 0, low, high => [(low, high)]
  | depth + 1, low, high =>
    match cut? low high with
    | some last => pieces depth low last ++ pieces depth (last + 1) high
    | none => [(low, high)]

/-- The encodings of the code points from `low` to `high`. A cut ends at the last code point of a
length or at a multiple of a block, each at most twice along the way to a piece. -/
def encodings (low high : Nat) : List ByteRanges :=
  let encode (n : Nat) : List UInt8 := String.utf8EncodeChar (Char.ofNat n)
  (pieces 16 low high).map fun (low, high) => (encode low).zip (encode high)

/-- The encodings of a set. The code points for UTF-16 are left out of its ranges. -/
def CharSet.encodings (s : CharSet) : List ByteRanges :=
  s.ranges.flatMap fun (low, high) =>
    if low < 0xE000 ∧ 0xD7FF < high then
      Regex.encodings low 0xD7FF ++ Regex.encodings 0xE000 high
    else Regex.encodings low high

/-! ## Sets -/

/-- Puts neighbouring lists together that start alike, without what they start with. -/
def byHead {α : Type} [DecidableEq α] : List (List α) → List (α × List (List α))
  | [] => []
  | [] :: lists => byHead lists
  | (a :: rest) :: lists =>
    match byHead lists with
    | [] => [(a, [rest])]
    | (b, rests) :: groups =>
      if a = b then (b, rest :: rests) :: groups else (a, [rest]) :: (b, rests) :: groups

/-- What is left to read at each place of the tree of encodings, the ends apart. -/
def remainders : (length : Nat) → List ByteRanges → List (List ByteRanges)
  | 0, _ => []
  | length + 1, encodings =>
    encodings :: (byHead encodings).flatMap fun (_, rests) =>
      if rests.all List.isEmpty then [] else remainders length rests

/-- How many edges the tree of encodings has. -/
def edges : (length : Nat) → List ByteRanges → Nat
  | 0, _ => 0
  | length + 1, encodings =>
    total ((byHead encodings).map fun (_, rests) => edges length rests + 1)

/-- The room for a set. Places of the tree where the same is left to read share a state. -/
def CharSet.room (direction : Direction) (s : CharSet) : Nat :=
  if s.isBasic then 2 * stateRoom + byteRoom * s.ranges.length
  else
    let encodings := s.encodings
    match direction with
    | .forward =>
      stateRoom + total ((remainders 4 encodings).eraseDups.map fun left =>
        stateRoom + byteRoom * (byHead left).length)
    | .backward =>
      2 * stateRoom + forkRoom * encodings.length + stateRoom * edges 4 encodings

/-! ## Texts -/

/-- The bytes of a text in the order in which they are read. -/
def bytesOf (direction : Direction) (symbols : List Char) : List UInt8 :=
  let bytes := symbols.flatMap String.utf8EncodeChar
  match direction with
  | .forward => bytes
  | .backward => bytes.reverse

/-- Cuts a list of texts wherever one is empty. -/
def splitAtEmpty : List (List UInt8) → List (List (List UInt8))
  | [] => [[]]
  | [] :: texts => [] :: splitAtEmpty texts
  | text :: texts =>
    match splitAtEmpty texts with
    | [] => [[text]]
    | chunk :: chunks => (text :: chunk) :: chunks

/-- The first bytes of texts, each with the rests of those that start with it. -/
def heads (texts : List (List UInt8)) : List (List (List UInt8)) :=
  (texts.filterMap List.head?).eraseDups.map fun b =>
    texts.filterMap fun text => if text.head? = some b then some text.tail else none

/-- The room for the tree of a list of texts. Where a text ends, those after it in the list make
a state of their own, because they are less preferred. -/
def treeRoom : (length : Nat) → List (List UInt8) → Nat
  | 0, _ => 0
  | length + 1, texts =>
    let chunks := (splitAtEmpty texts).map heads
    let leading := (texts.takeWhile List.isEmpty).length
    let stops := chunks.length - 1 - (leading - 1)
    let chunks := chunks.filter (!·.isEmpty)
    stateRoom + forkRoom * (stops + chunks.length) +
      total (chunks.map fun children =>
        stateRoom + (if children.length = 1 then 0 else byteRoom * children.length) +
          total (children.map fun rests =>
            if rests.all List.isEmpty then 0 else treeRoom length rests))

/-- The texts if all branches are texts, and there are several. -/
def texts? (es : List Expr) : Option (List (List Char)) :=
  if es.length < 2 then none
  else
    es.mapM fun
      | .text symbols => some symbols
      | _ => none

/-! ## Expressions -/

/-- The room for a repetition of something that takes `room`. Something that need not take up a
symbol is tried once in front of its rounds. -/
def roundsRoom (takesUp : Bool) (room : Nat) (least : Nat) (most : Option Nat) : Nat :=
  let fork := stateRoom + 2 * forkRoom
  match least, most with
  | 0, some 1 => fork + room + stateRoom
  | 0, none => if takesUp then fork + room else 2 * fork + room + stateRoom
  | least, none => least * room + fork
  | least, some most =>
    if least = most then least * room
    else
      (if least = 0 then stateRoom else least * room) + stateRoom +
        (most - least) * (fork + room)

/-- The room for an expression whose branches are known to take `rooms`. -/
def choiceRoom (direction : Direction) (e : Expr) (rooms : List Nat) : Nat :=
  match texts? e.branches, rooms with
  | some texts, _ =>
    let texts := texts.map (bytesOf direction)
    stateRoom + treeRoom ((texts.map List.length).foldl max 0 + 1) texts
  | none, [room] => room
  | none, rooms => 2 * stateRoom + forkRoom * rooms.length + total rooms

namespace Expr

/-- The rooms that the branches of an expression take. -/
def branchRooms (direction : Direction) : Expr → List Nat
  | .empty => [stateRoom]
  | .text symbols => [stateRoom * (bytesOf direction symbols).length]
  | .one s => [s.room direction]
  | .look _ => [stateRoom]
  | .group _ e =>
    let marks := match direction with
      | .forward => 2 * stateRoom
      | .backward => 0
    [marks + choiceRoom direction e (e.branchRooms direction)]
  | .cat e f =>
    [choiceRoom direction e (e.branchRooms direction) +
      choiceRoom direction f (f.branchRooms direction)]
  | .alt e f => choiceRoom direction e (e.branchRooms direction) :: f.branchRooms direction
  | .rounds e least most _ =>
    [roundsRoom e.takesUp (choiceRoom direction e (e.branchRooms direction)) least most]

/-- The room for the automaton of an expression that goes in the given direction. Forward it marks
where the match starts and ends. A match that may start anywhere needs a loop in front. -/
def room (direction : Direction) (e : Expr) : Nat :=
  let (fixed, marks) := match direction with
    | .forward => (e.fromTextStart, 2 * stateRoom)
    | .backward => (e.toTextEnd, 0)
  let lead :=
    if fixed then stateRoom else 3 * stateRoom + 2 * forkRoom + byteRoom
  lead + marks + choiceRoom direction e (e.branchRooms direction) + stateRoom

end Expr

/-- The room that an automaton may take. -/
def maxRoom : Nat := 10 * 1024 * 1024

end Parlance.Regex
