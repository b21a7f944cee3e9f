import Parlance.Text.Hex

/-!
# Reading JSON text

The pieces from which a reader of JSON is put together. Each takes the symbols ahead and gives
back what is left after it, or nothing if the text is not JSON there.

A value that nobody asks for is passed over by its form alone. A string in it may therefore hold
half of a surrogate pair, which no string that is asked for can.
-/

namespace Parlance.Json

/-- The blanks that may stand between the parts of a value. -/
def isSpace (c : Char) : Bool := c = ' ' || c = '\t' || c = '\n' || c = '\r'

/-- The symbols ahead from the first that is not blank. -/
def skipSpace (text : List Char) : List Char := text.dropWhile isSpace

/-! ## Strings -/

/-- The number that four hexadecimal digits stand for. -/
def codeUnit? (a b c d : Char) : Option Nat := do
  let a ← Text.hexValue? a
  let b ← Text.hexValue? b
  let c ← Text.hexValue? c
  let d ← Text.hexValue? d
  return ((a * 16 + b) * 16 + c) * 16 + d

/-- The first unit of a surrogate pair. -/
def isHighSurrogate (n : Nat) : Bool := 0xD800 ≤ n && n ≤ 0xDBFF

/-- The second unit of a surrogate pair. -/
def isLowSurrogate (n : Nat) : Bool := 0xDC00 ≤ n && n ≤ 0xDFFF

/-- The symbol that the letter after a backslash stands for, except the letter of a code unit. -/
def shortEscape? : Char → Option Char
  | '"' => some '"'
  | '\\' => some '\\'
  | '/' => some '/'
  | 'b' => some '\x08'
  | 'f' => some '\x0c'
  | 'n' => some '\n'
  | 'r' => some '\r'
  | 't' => some '\t'
  | _ => none

/-- Reads a string from after its opening quote: its value and what is left after it. -/
def readString? : List Char → Option (List Char × List Char)
  | [] => none
  | '"' :: rest => some ([], rest)
  | '\\' :: 'u' :: a :: b :: c :: d :: '\\' :: 'u' :: e :: f :: g :: h :: rest => do
    let first ← codeUnit? a b c d
    if isHighSurrogate first then
      let second ← codeUnit? e f g h
      if isLowSurrogate second then
        let (text, rest) ← readString? rest
        return (Char.ofNat (0x10000 + (first - 0xD800) * 0x400 + (second - 0xDC00)) :: text, rest)
      else none
    else if isLowSurrogate first then none
    else
      let (text, rest) ← readString? ('\\' :: 'u' :: e :: f :: g :: h :: rest)
      return (Char.ofNat first :: text, rest)
  | '\\' :: 'u' :: a :: b :: c :: d :: rest => do
    let unit ← codeUnit? a b c d
    if isHighSurrogate unit || isLowSurrogate unit then none
    else
      let (text, rest) ← readString? rest
      return (Char.ofNat unit :: text, rest)
  | '\\' :: letter :: rest => do
    let c ← shortEscape? letter
    let (text, rest) ← readString? rest
    return (c :: text, rest)
  | c :: rest =>
    if c.toNat < 0x20 || c = '\\' then none
    else do
      let (text, rest) ← readString? rest
      return (c :: text, rest)

/-- Passes over a string from after its opening quote. -/
def skipString? : List Char → Option (List Char)
  | [] => none
  | '"' :: rest => some rest
  | '\\' :: 'u' :: a :: b :: c :: d :: rest =>
    if (codeUnit? a b c d).isSome then skipString? rest else none
  | '\\' :: letter :: rest => if (shortEscape? letter).isSome then skipString? rest else none
  | c :: rest => if c.toNat < 0x20 || c = '\\' then none else skipString? rest

/-! ## Numbers -/

/-- Passes over one digit or more. -/
def skipDigits? (text : List Char) : Option (List Char) :=
  if (text.takeWhile Char.isDigit).isEmpty then none else some (text.dropWhile Char.isDigit)

/-- Passes over the digits in front of the point: a zero alone, or digits that start with
another one. -/
def skipWhole? : List Char → Option (List Char)
  | '0' :: rest => if (rest.takeWhile Char.isDigit).isEmpty then some rest else none
  | text => skipDigits? text

/-- Passes over the point and the digits after it, if there is a point. -/
def skipFraction? : List Char → Option (List Char)
  | '.' :: rest => skipDigits? rest
  | text => some text

/-- Passes over a power of ten, if there is one. -/
def skipExponent? : List Char → Option (List Char)
  | e :: text =>
    if e = 'e' || e = 'E' then
      match text with
      | '+' :: rest => skipDigits? rest
      | '-' :: rest => skipDigits? rest
      | _ => skipDigits? text
    else some (e :: text)
  | [] => some []

/-- Passes over a number. -/
def skipNumber? (text : List Char) : Option (List Char) := do
  let whole := match text with
    | '-' :: rest => rest
    | _ => text
  let rest ← skipWhole? whole
  let rest ← skipFraction? rest
  skipExponent? rest

/-! ## Values -/

mutual

/-- Passes over any value. The number bounds how deep and how far it may reach. -/
def skipValueWithin? : Nat → List Char → Option (List Char)
  | 0, _ => none
  | fuel + 1, text =>
    match skipSpace text with
    | '[' :: rest =>
      match skipSpace rest with
      | ']' :: rest => some rest
      | rest => skipItems? fuel rest
    | '{' :: rest =>
      match skipSpace rest with
      | '}' :: rest => some rest
      | rest => skipMembers? fuel rest
    | '"' :: rest => skipString? rest
    | 'n' :: 'u' :: 'l' :: 'l' :: rest => some rest
    | 't' :: 'r' :: 'u' :: 'e' :: rest => some rest
    | 'f' :: 'a' :: 'l' :: 's' :: 'e' :: rest => some rest
    | rest => skipNumber? rest

/-- Passes over the items of an array and its closing bracket. -/
def skipItems? : Nat → List Char → Option (List Char)
  | 0, _ => none
  | fuel + 1, text => do
    let rest ← skipValueWithin? fuel text
    match skipSpace rest with
    | ',' :: rest => skipItems? fuel rest
    | ']' :: rest => some rest
    | _ => none

/-- Passes over the members of an object and its closing brace. -/
def skipMembers? : Nat → List Char → Option (List Char)
  | 0, _ => none
  | fuel + 1, text =>
    match skipSpace text with
    | '"' :: rest => do
      let rest ← skipString? rest
      match skipSpace rest with
      | ':' :: rest => do
        let rest ← skipValueWithin? fuel rest
        match skipSpace rest with
        | ',' :: rest => skipMembers? fuel rest
        | '}' :: rest => some rest
        | _ => none
      | _ => none
    | _ => none

end

/-- Passes over any value. Each symbol of it is met at most twice. -/
def skipValue? (text : List Char) : Option (List Char) :=
  skipValueWithin? (2 * text.length + 2) text

end Parlance.Json
