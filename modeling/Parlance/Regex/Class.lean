import Parlance.Regex.Escape

/-!
# Bracketed classes

The sets written in brackets: symbols, ranges, escapes, named sets and nested classes, possibly
negated, and joined by the operators for intersection, difference and symmetric difference, which
all bind alike and to the left.

Along with the set goes its depth: how many brackets, operators and lists of items lie around its
innermost item.
-/

namespace Parlance.Regex

/-! ## Named sets -/

/-- Reads a named set from after the first bracket: a name between colons, possibly negated. What
is not of that form is not an error but a nested class. -/
def readNamed? (flags : Flags) : List Char → Option (Except SyntaxError CharSet × List Char)
  | ':' :: text =>
    let (negated, text) := match text with
      | '^' :: rest => (true, rest)
      | _ => (false, text)
    match text.dropWhile (· ≠ ':') with
    | ':' :: ']' :: rest =>
      (CharSet.basic? (String.ofList (text.takeWhile (· ≠ ':')))).map fun s =>
        (flags.complIf negated (flags.fold s), rest)
    | _ => none
  | _ => none

/-! ## Items -/

/-- Reads one item of a class, as if it were an escape. -/
def readItemPart (flags : Flags) : List Char → Except SyntaxError (Escape × List Char)
  | [] => .error .classUnclosed
  | '\\' :: rest => readEscape flags rest
  | c :: rest => .ok (.symbol c, rest)

/-- The symbol that an item stands for, if it stands for one. -/
def Escape.symbol? (flags : Flags) : Escape → Option (Except SyntaxError Char)
  | .symbol c | .octet c =>
    some (if flags.allScripts || c.toNat < 0x80 then .ok c else .error .basicOnly)
  | _ => none

/-- The set that an item stands for when it is not an end of a range. -/
def Escape.toSet (flags : Flags) (item : Escape) : Except SyntaxError CharSet :=
  match item.symbol? flags, item with
  | some c, _ => return .single (← c)
  | none, .set s => .ok s
  | none, _ => .error .classItem

/-- Looks for the next symbol that has a meaning in the spaced style. The first number sign starts
a comment. All white space counts as free, the end of a line included, so that the comment goes
on to the next symbol in any line, and that is the one found. -/
def peekSpaced : (commented : Bool) → List Char → Option Char
  | _, [] => none
  | commented, c :: text =>
    if Unicode.isSpace c then peekSpaced commented text
    else if c = '#' && !commented then peekSpaced true text
    else some c

/-- The symbol that decides what the dash in front of `text` means. If nothing but what is free
follows, it is the very next one. -/
def peek (flags : Flags) (text : List Char) : Option Char :=
  if flags.spaced then peekSpaced false text <|> text.head? else text.head?

/-- Whether a dash is followed by something that makes it the sign of a range. -/
def dashIsRange (flags : Flags) (afterDash : List Char) : Bool :=
  peek flags afterDash ≠ some ']' && peek flags afterDash ≠ some '-'

/-- Reads one item or a range between two items. -/
def readItem (flags : Flags) (text : List Char) :
    Except SyntaxError (CharSet × List Char) := do
  let (first, text) ← readItemPart flags text
  match flags.skip text with
  | '-' :: afterDash =>
    if dashIsRange flags afterDash then
      let (second, rest) ← readItemPart flags (flags.skip afterDash)
      match first.symbol? flags, second.symbol? flags with
      | some low, some high =>
        let low ← low
        let high ← high
        if low ≤ high then return (.range low high, rest) else .error .classRange
      | _, _ => .error .classRange
    else return (← first.toSet flags, '-' :: afterDash)
  | text => return (← first.toSet flags, text)

/-! ## Lists of items -/

/-- A set with its depth. -/
structure NestedSet where
  set : CharSet
  depth : Nat

/-- What has been read of a list of items: the symbols of all, how many there are, and the depth
of the deepest. -/
structure Items where
  set : CharSet
  count : Nat
  depth : Nat

namespace Items

/-- No items. -/
def empty : Items := ⟨.empty, 0, 0⟩

/-- Adds an item. -/
def add (items : Items) (s : CharSet) (depth : Nat) : Items :=
  ⟨items.set.union s, items.count + 1, max items.depth depth⟩

/-- The list as a set. A single item is no list. -/
def close (items : Items) : NestedSet :=
  ⟨items.set, if 2 ≤ items.count then items.depth + 1 else items.depth⟩

end Items

/-! ## Operators -/

/-- An operator between two classes. -/
inductive ClassOp where
  | inter
  | diff
  | symmDiff

/-- The set on the left of an operator that waits for its right side, or nothing so far. -/
abbrev Waiting : Type := Option (NestedSet × ClassOp)

/-- A list of items joined to the set that waits for it. -/
def Items.joinedTo (flags : Flags) (waiting : Waiting) (items : Items) : NestedSet :=
  let right := items.close
  match waiting with
  | none => right
  | some (left, op) =>
    let s := flags.fold left.set
    let t := flags.fold right.set
    let joined := match op with
      | .inter => s.inter t
      | .diff => s.diff t
      | .symmDiff => s.symmDiff t
    ⟨joined, max left.depth right.depth + 1⟩

/-! ## Classes -/

/-- Reads the dashes at the start of a class, which stand for themselves. -/
def readLeadingDashes (flags : Flags) : (fuel : Nat) → Items → List Char → Items × List Char
  | 0, items, text => (items, text)
  | fuel + 1, items, text =>
    match text with
    | '-' :: rest => readLeadingDashes flags fuel (items.add (.single '-') 0) (flags.skip rest)
    | text => (items, text)

/-- Reads the start of a class from after its bracket: the sign of negation, leading dashes, and a
closing bracket that stands for itself because nothing is in front of it. -/
def readClassStart (flags : Flags) (text : List Char) : Bool × Items × List Char :=
  let (negated, text) := match flags.skip text with
    | '^' :: rest => (true, flags.skip rest)
    | text => (false, text)
  match text with
  | ']' :: rest => (negated, Items.empty.add (.single ']') 0, rest)
  | text => (negated, readLeadingDashes flags text.length .empty text)

/-- Reads the rest of a class, up to its closing bracket. `items` is what has been read of the
current list. -/
def readClassRest (flags : Flags) :
    (fuel : Nat) → (negated : Bool) → Waiting → (items : Items) → List Char →
      Except SyntaxError (NestedSet × List Char)
  | 0, _, _, _, _ => .error .classUnclosed
  | fuel + 1, negated, waiting, items, text =>
    match flags.skip text with
    | [] => .error .classUnclosed
    | '[' :: rest =>
      match readNamed? flags rest with
      | some (named, rest) => do
        readClassRest flags fuel negated waiting (items.add (← named) 0) rest
      | none => do
        let (innerNegated, start, rest) := readClassStart flags rest
        let (inner, rest) ← readClassRest flags fuel innerNegated none start rest
        readClassRest flags fuel negated waiting (items.add inner.set inner.depth) rest
    | ']' :: rest => do
      let joined := items.joinedTo flags waiting
      return (⟨← flags.complIf negated (flags.fold joined.set), joined.depth + 1⟩, rest)
    | '&' :: '&' :: rest =>
      readClassRest flags fuel negated (some (items.joinedTo flags waiting, .inter)) .empty rest
    | '-' :: '-' :: rest =>
      readClassRest flags fuel negated (some (items.joinedTo flags waiting, .diff)) .empty rest
    | '~' :: '~' :: rest =>
      readClassRest flags fuel negated (some (items.joinedTo flags waiting, .symmDiff)) .empty rest
    | text => do
      let (item, rest) ← readItem flags text
      readClassRest flags fuel negated waiting (items.add item 0) rest

/-- Reads a class from after its first bracket. Each step takes up at least one symbol. -/
def readClass (flags : Flags) (text : List Char) :
    Except SyntaxError (NestedSet × List Char) :=
  let (negated, start, rest) := readClassStart flags text
  readClassRest flags (rest.length + 1) negated none start rest

end Parlance.Regex
