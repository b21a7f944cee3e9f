import Parlance.Regex.CharSet

/-!
# Flags

How the text of a regular expression is to be read at a place: flags say whether case matters, what
the marks for lines mean, and so on. In the spaced style of writing, blanks and comments may stand
between the parts of an expression; `Flags.skip` passes over them.
-/

namespace Parlance.Regex

/-- Why a text is not a regular expression. -/
inductive SyntaxError where
  | groupUnclosed
  | groupUnopened
  | groupName
  | lookAround
  | flags
  | classUnclosed
  | classItem
  | classRange
  | nothingToRepeat
  | count
  | countOrder
  | escape
  | backReference
  | property
  /-- What has no meaning without the symbols outside of the basic table. -/
  | basicOnly
  | tooDeep
  | tooLarge
deriving DecidableEq, Repr

/-- The flags in force. -/
structure Flags where
  /-- Letters match regardless of case. -/
  anyCase : Bool := false
  /-- The marks for start and end stand for those of each line. -/
  multiLine : Bool := false
  /-- A point matches newlines, too. -/
  pointMatchesNewline : Bool := false
  /-- Carriage returns end lines, too. -/
  returnsEndLines : Bool := false
  /-- Repetitions prefer few rounds, and many if marked. -/
  swapGreed : Bool := false
  /-- Blanks and comments have no meaning. -/
  spaced : Bool := false
  /-- Sets with a name and regard for case extend to all scripts. -/
  allScripts : Bool := true
deriving DecidableEq, Repr

/-! ## The spaced style -/

/-- Passes over white space, and over comments, which go from a number sign to the end of the
line. The first argument says whether the text starts inside a comment. -/
def skipSpaceAndComments : Bool → List Char → List Char
  | _, [] => []
  | true, c :: text => skipSpaceAndComments (c ≠ '\n') text
  | false, c :: text =>
    if Unicode.isSpace c then skipSpaceAndComments false text
    else if c = '#' then skipSpaceAndComments true text
    else c :: text

namespace Flags

/-- Passes over what has no meaning in the spaced style. In the usual style all has. -/
def skip (flags : Flags) (text : List Char) : List Char :=
  if flags.spaced then skipSpaceAndComments false text else text

/-! ## Sets as the flags have them -/

/-- The set, made to ignore case if the flags say so. -/
def fold (flags : Flags) (s : CharSet) : CharSet :=
  if flags.anyCase then
    s.closeCase (if flags.allScripts then Unicode.foldPairs else Unicode.basicFoldPairs)
  else s

/-- The set or its complement, which has symbols outside of the basic table. -/
def complIf (flags : Flags) (negated : Bool) (s : CharSet) : Except SyntaxError CharSet :=
  if negated && !flags.allScripts then .error .basicOnly else .ok (s.complIf negated)

/-! ## Reading flags -/

/-- Sets or clears the flag with a given letter. -/
def set (flags : Flags) (letter : Char) (value : Bool) : Except SyntaxError Flags :=
  match letter with
  | 'i' => .ok { flags with anyCase := value }
  | 'm' => .ok { flags with multiLine := value }
  | 's' => .ok { flags with pointMatchesNewline := value }
  | 'R' => .ok { flags with returnsEndLines := value }
  | 'U' => .ok { flags with swapGreed := value }
  | 'x' => .ok { flags with spaced := value }
  | 'u' => .ok { flags with allScripts := value }
  | _ => .error .flags

end Flags

/-- Whether flags are set for the group around or for a group of their own. -/
inductive FlagScope where
  | around
  | own
deriving DecidableEq, Repr

/-- Reads flags from after the question mark up to the end of the directive. `seen` holds what has
been read, the last symbol first: no letter and no dash may come twice, and a dash not last. -/
def readFlags (flags : Flags) (seen : List Char) :
    List Char → Except SyntaxError (Flags × FlagScope × List Char)
  | [] => .error .flags
  | ':' :: rest => if seen.head? = some '-' then .error .flags else .ok (flags, .own, rest)
  | ')' :: rest =>
    if seen.head? = some '-' then .error .flags
    else if seen.isEmpty then .error .nothingToRepeat
    else .ok (flags, .around, rest)
  | letter :: rest =>
    if seen.contains letter then .error .flags
    else if letter = '-' then readFlags flags ('-' :: seen) rest
    else do
      let flags ← flags.set letter (!seen.contains '-')
      readFlags flags (letter :: seen) rest

end Parlance.Regex
