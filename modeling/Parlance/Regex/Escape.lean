import Parlance.Regex.Expr
import Parlance.Regex.Flags
import Parlance.Regex.NamedSet
import Parlance.Text.Hex

/-!
# Escapes in regular expressions

A backslash and what follows it: a symbol, a set of symbols, or a condition on the place.
-/

namespace Parlance.Regex

/-- What a backslash and the text after it stand for. -/
inductive Escape where
  | symbol (c : Char)
  /-- A symbol given by two hexadecimal digits, which may be meant as a byte. -/
  | octet (c : Char)
  | set (s : CharSet)
  | look (l : Look)
deriving Repr

/-! ## Code points -/

/-- The symbol with a given code point. -/
def symbolOf (value : Nat) : Except SyntaxError Char :=
  if value.isValidChar then .ok (Char.ofNat value) else .error .escape

/-- Reads exactly `count` hexadecimal digits. -/
def readHexDigits (flags : Flags) :
    (count value : Nat) → List Char → Except SyntaxError (Nat × List Char)
  | 0, value, text => .ok (value, text)
  | count + 1, value, text =>
    match flags.skip text with
    | [] => .error .escape
    | c :: rest =>
      match Text.hexValue? c with
      | none => .error .escape
      | some digit => readHexDigits flags count (16 * value + digit) rest

/-- Reads hexadecimal digits up to a closing brace, the first of them if `first` is set. -/
def readHexBraced (flags : Flags) :
    (fuel : Nat) → (first : Bool) → (value : Nat) → List Char →
      Except SyntaxError (Nat × List Char)
  | 0, _, _, _ => .error .escape
  | fuel + 1, first, value, text =>
    match flags.skip text with
    | [] => .error .escape
    | '}' :: rest => if first then .error .escape else .ok (value, rest)
    | c :: rest =>
      match Text.hexValue? c with
      | none => .error .escape
      | some digit => readHexBraced flags fuel false (16 * value + digit) rest

/-- Reads a code point: hexadecimal digits in braces, or exactly `count` of them without. -/
def readCodePoint (flags : Flags) (count : Nat) (text : List Char) :
    Except SyntaxError (Escape × List Char) := do
  match flags.skip text with
  | '{' :: rest =>
    let (value, rest) ← readHexBraced flags (rest.length + 1) true 0 rest
    return (.symbol (← symbolOf value), rest)
  | text =>
    let (value, rest) ← readHexDigits flags count 0 text
    let c ← symbolOf value
    return (if count = 2 then .octet c else .symbol c, rest)

/-! ## Word boundaries -/

/-- Whether the symbol may be part of the name of a word boundary. -/
def isBoundaryLetter (c : Char) : Bool := c.isAlpha || c = '-'

/-- Reads the letters of the name of a word boundary. -/
def readBoundaryName (flags : Flags) :
    (fuel : Nat) → List Char → List Char × List Char
  | 0, text => ([], text)
  | fuel + 1, text =>
    match text with
    | [] => ([], [])
    | c :: rest =>
      if isBoundaryLetter c then
        let (name, rest) := readBoundaryName flags fuel (flags.skip rest)
        (c :: name, rest)
      else ([], c :: rest)

/-- The word boundary with a given name. -/
def boundaryNamed? (name : String) : Option WordEdge :=
  if name = "start" then some .start
  else if name = "end" then some .stop
  else if name = "start-half" then some .halfStart
  else if name = "end-half" then some .halfStop
  else none

/-- Reads what follows the letter for a word boundary: the name of a special one in braces, if
there is one. Braces that do not start with a letter are a repetition and left alone. -/
def readBoundary (flags : Flags) : List Char → Except SyntaxError (WordEdge × List Char)
  | '{' :: rest =>
    match flags.skip rest with
    | [] => .error .escape
    | c :: text =>
      if isBoundaryLetter c then
        match readBoundaryName flags (text.length + 1) (c :: text) with
        | (name, '}' :: rest) =>
          match boundaryNamed? (String.ofList name) with
          | some edge => .ok (edge, rest)
          | none => .error .escape
        | _ => .error .escape
      else .ok (.either, '{' :: rest)
  | text => .ok (.either, text)

/-! ## Properties -/

/-- Reads up to a closing brace. -/
def readBraced (flags : Flags) :
    (fuel : Nat) → List Char → Except SyntaxError (List Char × List Char)
  | 0, _ => .error .escape
  | fuel + 1, text =>
    match flags.skip text with
    | [] => .error .escape
    | '}' :: rest => .ok ([], rest)
    | c :: rest => do
      let (others, rest) ← readBraced flags fuel rest
      return (c :: others, rest)

/-- Cuts a text in two around the first place where `sign` stands. -/
def cutAt? (sign : List Char) : List Char → Option (List Char × List Char)
  | [] => none
  | c :: text =>
    if sign.isPrefixOf (c :: text) then some ([], (c :: text).drop sign.length)
    else (cutAt? sign text).map fun (before, after) => (c :: before, after)

/-- The set that the text in braces calls for: a name, or a name and a value. Of the signs between
them `!=` is looked for first, and it means the same as the others. -/
def setCalled? (name : List Char) : Option CharSet :=
  match cutAt? ['!', '='] name <|> cutAt? [':'] name <|> cutAt? ['='] name with
  | some (name, value) => CharSet.valued? name value
  | none => CharSet.named? name

/-- Reads the name of a property, a single letter or a text in braces. -/
def readProperty (flags : Flags) (negated : Bool) (text : List Char) :
    Except SyntaxError (CharSet × List Char) := do
  let (found, rest) ← match flags.skip text with
    | [] => .error .escape
    | '{' :: rest => do
      let (name, rest) ← readBraced flags (rest.length + 1) rest
      pure (setCalled? name, rest)
    | c :: rest => pure (if c = '\\' then none else CharSet.named? [c], rest)
  match found with
  | none => .error .property
  | some s =>
    if flags.allScripts then return ((flags.fold s).complIf negated, rest) else .error .basicOnly

/-! ## Escapes -/

/-- Whether a backslash in front of the symbol makes it stand for itself: it is in the basic
table and has no meaning of its own, so it is neither a letter nor a digit nor an angle. -/
def isPlainEscape (c : Char) : Bool :=
  c.toNat < 0x80 && !c.isAlphanum && c ≠ '<' && c ≠ '>'

/-- One of the sets with a letter of their own, or its complement. -/
def letterSet (flags : Flags) (negated : Bool) (s basic : CharSet) (rest : List Char) :
    Except SyntaxError (Escape × List Char) := do
  return (.set (← flags.complIf negated (if flags.allScripts then s else basic)), rest)

/-- The digits of the basic table. -/
def CharSet.basicDigit : CharSet := .range '0' '9'

/-- The white space of the basic table. -/
def CharSet.basicSpace : CharSet := .ofChars [('\t', '\r'), (' ', ' ')]

/-- Reads an escape from after its backslash. -/
def readEscape (flags : Flags) : List Char → Except SyntaxError (Escape × List Char)
  | [] => .error .escape
  | c :: rest =>
    match c with
    | 'x' => readCodePoint flags 2 rest
    | 'u' => readCodePoint flags 4 rest
    | 'U' => readCodePoint flags 8 rest
    | 'p' => do
      let (s, rest) ← readProperty flags false rest
      return (.set s, rest)
    | 'P' => do
      let (s, rest) ← readProperty flags true rest
      return (.set s, rest)
    | 'd' => letterSet flags false .digit .basicDigit rest
    | 'D' => letterSet flags true .digit .basicDigit rest
    | 's' => letterSet flags false .space .basicSpace rest
    | 'S' => letterSet flags true .space .basicSpace rest
    | 'w' => letterSet flags false .word .basicWord rest
    | 'W' => letterSet flags true .word .basicWord rest
    | 'a' => .ok (.symbol '\x07', rest)
    | 'f' => .ok (.symbol '\x0c', rest)
    | 't' => .ok (.symbol '\t', rest)
    | 'n' => .ok (.symbol '\n', rest)
    | 'r' => .ok (.symbol '\r', rest)
    | 'v' => .ok (.symbol '\x0b', rest)
    | 'A' => .ok (.look .textStart, rest)
    | 'z' => .ok (.look .textEnd, rest)
    | 'b' => do
      let (edge, rest) ← readBoundary flags rest
      return (.look (.word flags.allScripts edge), rest)
    | 'B' => .ok (.look (.word flags.allScripts .neither), rest)
    | '<' => .ok (.look (.word flags.allScripts .start), rest)
    | '>' => .ok (.look (.word flags.allScripts .stop), rest)
    | _ =>
      if c.isDigit then .error .backReference
      else if isPlainEscape c then .ok (.symbol c, rest)
      else .error .escape

end Parlance.Regex
