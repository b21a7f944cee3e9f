import Parlance.Regex.Class
import Parlance.Regex.Simplify

/-!
# Reading regular expressions

From the text of a regular expression to its `Expr`. The reader goes through the text once and
keeps, for each group that is still open, what has been read of it: finished alternatives and the
parts of the current one.

Flags hold from where they are set to the end of the group around, across alternatives. Parts may
be nested up to a depth of `maxDepth`.
-/

namespace Parlance.Regex

/-! ## What has been read -/

/-- A part of an alternative, with its depth: how many groups, repetitions, classes, sequences and
choices lie around its innermost part. Flags leave a mark, because they cannot be repeated. -/
inductive Part where
  | flags
  | expr (e : Expr) (depth : Nat)

namespace Part

/-- What the part matches. -/
def expr? : Part → Option Expr
  | .flags => none
  | .expr e _ => some e

/-- The depth of the part. -/
def depth : Part → Nat
  | .flags => 0
  | .expr _ depth => depth

end Part

/-- An expression with its depth. -/
structure NestedExpr where
  expr : Expr
  depth : Nat

/-- The depth of a list, whose members have the given depths. A single member is no list. -/
def depthOfList : List Nat → Nat
  | [] => 0
  | [depth] => depth
  | depths => depths.foldl max 0 + 1

/-- A group that is still open: its number if it has one, and what to go on with after it. -/
structure OpenGroup where
  index : Option Nat
  flags : Flags
  branches : List NestedExpr
  parts : List Part

/-- The state of reading. Lists have their latest entry first. -/
structure State where
  flags : Flags := {}
  /-- How many groups have been numbered. -/
  groups : Nat := 0
  names : List (List Char) := []
  /-- The finished alternatives of the innermost group. -/
  branches : List NestedExpr := []
  /-- The parts of its current alternative. -/
  parts : List Part := []
  /-- The open groups, the innermost first. -/
  outer : List OpenGroup := []

namespace State

/-- Adds a part to the current alternative. -/
def push (s : State) (e : Expr) (depth : Nat) : State :=
  { s with parts := .expr e depth :: s.parts }

/-- The current alternative as an expression. -/
def alternative (s : State) : NestedExpr where
  expr := Expr.sequence (s.parts.reverse.filterMap Part.expr?)
  depth := depthOfList (s.parts.map Part.depth)

/-- The innermost group as an expression. -/
def body (s : State) : NestedExpr :=
  let branches := s.alternative :: s.branches
  ⟨Expr.choice (branches.reverse.map (·.expr)), depthOfList (branches.map (·.depth))⟩

/-- Ends the current alternative and starts the next. -/
def nextAlternative (s : State) : State :=
  { s with branches := s.alternative :: s.branches, parts := [] }

/-- Opens a group inside of which `flags` hold. -/
def openGroup (s : State) (index : Option Nat) (flags : Flags) : State :=
  { s with
    flags := flags, branches := [], parts := []
    outer := ⟨index, s.flags, s.branches, s.parts⟩ :: s.outer }

/-- Closes the innermost group. -/
def closeGroup (s : State) : Except SyntaxError State :=
  match s.outer with
  | [] => .error .groupUnopened
  | group :: outer =>
    let body := s.body
    let inner := match group.index with
      | some index => .group index body.expr
      | none => body.expr
    .ok { s with
      flags := group.flags, branches := group.branches
      parts := .expr inner (body.depth + 1) :: group.parts
      outer := outer }

/-- Opens a group with the next number. -/
def openNumbered (s : State) : State :=
  { s.openGroup (some (s.groups + 1)) s.flags with groups := s.groups + 1 }

/-- Puts a repetition in place of the last part. -/
def repeatLast (s : State) (least : Nat) (most : Option Nat) (greedy : Bool) :
    Except SyntaxError State :=
  match s.parts with
  | .expr e depth :: parts =>
    let repeated := e.iterate least most (greedy != s.flags.swapGreed)
    .ok { s with parts := .expr repeated (depth + 1) :: parts }
  | _ => .error .nothingToRepeat

/-- Adds a single symbol. Outside of the basic table it has no variants if that alone counts. -/
def pushSymbol (s : State) (c : Char) : State :=
  s.push (Expr.ofSet (s.flags.fold (.single c))) 0

end State

/-! ## Groups -/

/-- Whether a symbol can be part of the name of a group, and whether it can be the first. -/
def isNameSymbol (first : Bool) (c : Char) : Bool :=
  c = '_' || Unicode.isAlphabetic c ||
    (!first && (Unicode.isNumeric c || c = '.' || c = '[' || c = ']'))

/-- Opens a group whose name comes next, up to a closing angle. -/
def readName (s : State) (text : List Char) : Except SyntaxError (State × List Char) :=
  let name := text.takeWhile (· ≠ '>')
  match name, text.dropWhile (· ≠ '>') with
  | first :: others, _ :: rest =>
    if isNameSymbol true first && others.all (isNameSymbol false) && !s.names.contains name then
      .ok ({ s.openNumbered with names := name :: s.names }, rest)
    else .error .groupName
  | _, _ => .error .groupName

/-- Opens a group, or sets flags, from after the parenthesis. -/
def readGroup (s : State) (text : List Char) : Except SyntaxError (State × List Char) :=
  match s.flags.skip text with
  | '?' :: '=' :: _ => .error .lookAround
  | '?' :: '!' :: _ => .error .lookAround
  | '?' :: '<' :: '=' :: _ => .error .lookAround
  | '?' :: '<' :: '!' :: _ => .error .lookAround
  | '?' :: 'P' :: '<' :: rest => readName s rest
  | '?' :: '<' :: rest => readName s rest
  | '?' :: rest => do
    let (flags, scope, rest) ← readFlags s.flags [] rest
    match scope with
    | .around => return ({ s with flags := flags, parts := .flags :: s.parts }, rest)
    | .own => return (s.openGroup none flags, rest)
  | text => .ok (s.openNumbered, text)

/-! ## Repetitions -/

/-- Passes over a question mark that directly follows, and says whether there is none. -/
def readGreed : List Char → Bool × List Char
  | '?' :: rest => (false, rest)
  | text => (true, text)

/-- Reads decimal digits with whatever has no meaning between them. -/
def readDigits (flags : Flags) : (fuel : Nat) → List Char → List Char × List Char
  | 0, text => ([], text)
  | fuel + 1, text =>
    match text with
    | [] => ([], [])
    | c :: rest =>
      if c.isDigit then
        let (digits, rest) := readDigits flags fuel (flags.skip rest)
        (c :: digits, rest)
      else ([], c :: rest)

/-- The largest count of rounds that can be asked for. -/
def maxCount : Nat := 0xFFFFFFFF

/-- Reads a count with white space around it. No digits are no count. -/
def readCount (flags : Flags) (text : List Char) : Except SyntaxError (Option Nat × List Char) :=
  let text := text.dropWhile Unicode.isSpace
  let (digits, rest) := readDigits flags (text.length + 1) text
  let value := digits.foldl (fun n d => 10 * n + (d.toNat - '0'.toNat)) 0
  let rest := rest.dropWhile Unicode.isSpace
  if digits.isEmpty then .ok (none, rest)
  else if value ≤ maxCount then .ok (some value, rest)
  else .error .count

/-- Reads the bounds of a repetition from after the opening brace up to the closing one. The lower
bound cannot be left out. -/
def readBounds (flags : Flags) (text : List Char) :
    Except SyntaxError (Nat × Option Nat × List Char) := do
  let (least, text) ← readCount flags (flags.skip text)
  match least, text with
  | some least, '}' :: rest => return (least, some least, rest)
  | some least, ',' :: text =>
    match flags.skip text with
    | '}' :: rest => return (least, none, rest)
    | text => do
      let (most, text) ← readCount flags text
      match most, text with
      | some most, '}' :: rest =>
        if least ≤ most then return (least, some most, rest) else .error .countOrder
      | _, _ => .error .count
  | _, _ => .error .count

/-- Repeats the last part as often as the braces say. -/
def readCounted (s : State) (text : List Char) : Except SyntaxError (State × List Char) := do
  let (least, most, rest) ← readBounds s.flags text
  let (greedy, rest) := readGreed (s.flags.skip rest)
  let s ← s.repeatLast least most greedy
  return (s, rest)

/-- Repeats the last part as a sign says. -/
def readRepeated (s : State) (least : Nat) (most : Option Nat) (text : List Char) :
    Except SyntaxError (State × List Char) := do
  let (greedy, rest) := readGreed text
  let s ← s.repeatLast least most greedy
  return (s, rest)

/-! ## The whole -/

/-- What the mark for the start stands for. -/
def startMark (flags : Flags) : Look :=
  if !flags.multiLine then .textStart else if flags.returnsEndLines then .rowStart else .lineStart

/-- What the mark for the end stands for. -/
def endMark (flags : Flags) : Look :=
  if !flags.multiLine then .textEnd else if flags.returnsEndLines then .rowEnd else .lineEnd

/-- What a point stands for. -/
def pointSet (flags : Flags) : Except SyntaxError CharSet :=
  flags.complIf true <|
    if flags.pointMatchesNewline then .empty
    else if flags.returnsEndLines then .ofList ['\n', '\r']
    else .single '\n'

/-- Reads one thing: a part of an alternative, or a sign that structures them. -/
def readStep (s : State) (c : Char) (rest : List Char) :
    Except SyntaxError (State × List Char) :=
  match c with
  | '(' => readGroup s rest
  | ')' => do return (← s.closeGroup, rest)
  | '|' => .ok (s.nextAlternative, rest)
  | '[' => do
    let (s', rest) ← readClass s.flags rest
    return (s.push (Expr.ofSet s'.set) s'.depth, rest)
  | '?' => readRepeated s 0 (some 1) rest
  | '*' => readRepeated s 0 none rest
  | '+' => readRepeated s 1 none rest
  | '{' => readCounted s rest
  | '\\' => do
    let (escape, rest) ← readEscape s.flags rest
    match escape with
    | .symbol c => return (s.pushSymbol c, rest)
    | .octet c =>
      if s.flags.allScripts || c.toNat < 0x80 then return (s.pushSymbol c, rest)
      else .error .basicOnly
    | .set set => return (s.push (Expr.ofSet set) 0, rest)
    | .look look => return (s.push (.look look) 0, rest)
  | '.' => do
    let set ← pointSet s.flags
    return (s.push (Expr.ofSet set) 0, rest)
  | '^' => .ok (s.push (.look (startMark s.flags)) 0, rest)
  | '$' => .ok (s.push (.look (endMark s.flags)) 0, rest)
  | c => .ok (s.pushSymbol c, rest)

/-- Reads to the end of the text. Each step takes up at least one symbol. -/
def readSteps : (fuel : Nat) → State → List Char → Except SyntaxError State
  | 0, s, _ => .ok s
  | fuel + 1, s, text =>
    match s.flags.skip text with
    | [] => .ok s
    | c :: rest => do
      let (s, rest) ← readStep s c rest
      readSteps fuel s rest

/-- How deeply parts may be nested. -/
def maxDepth : Nat := 250

/-- Reads a regular expression. -/
def Expr.read (text : List Char) : Except SyntaxError Expr := do
  let s ← readSteps (text.length + 1) {} text
  let body := s.body
  if !s.outer.isEmpty then .error .groupUnclosed
  else if body.depth ≤ maxDepth then return body.expr
  else .error .tooDeep

end Parlance.Regex
