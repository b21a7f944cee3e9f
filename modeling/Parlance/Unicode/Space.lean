import Parlance.Unicode.CodeRange

/-!
# White space

The symbols that Unicode counts as white space. They are more than the blanks between tokens.
-/

namespace Parlance.Unicode

/-- The code points of all white space. -/
def spaceRanges : List (Nat × Nat) :=
  [(0x9, 0xD), (0x20, 0x20), (0x85, 0x85), (0xA0, 0xA0), (0x1680, 0x1680), (0x2000, 0x200A),
    (0x2028, 0x2029), (0x202F, 0x202F), (0x205F, 0x205F), (0x3000, 0x3000)]

/-- Whether `c` is white space. -/
def isSpace (c : Char) : Bool := inRanges spaceRanges c

end Parlance.Unicode
