import Parlance.Regex.CharSet
import Parlance.Unicode.Property
import Parlance.Unicode.Script

/-!
# Sets with a name

The sets that a regular expression can call by name: classes of the basic table, and properties,
general categories and scripts of all symbols. In the names of the latter, capital letters, blanks,
dashes and low lines make no difference, and neither does `is` in front.
-/

namespace Parlance.Regex.CharSet

/-! ## Classes of the basic table -/

/-- The symbols with code points in ranges that are written by their ends. -/
def ofChars (ranges : List (Char × Char)) : CharSet :=
  ofRanges (ranges.map fun (low, high) => (low.toNat, high.toNat))

/-- The class of the basic table with a given name. -/
def basic? (name : String) : Option CharSet :=
  if name = "alnum" then some (ofChars [('0', '9'), ('A', 'Z'), ('a', 'z')])
  else if name = "alpha" then some (ofChars [('A', 'Z'), ('a', 'z')])
  else if name = "ascii" then some (range '\x00' '\x7f')
  else if name = "blank" then some (ofChars [('\t', '\t'), (' ', ' ')])
  else if name = "cntrl" then some (ofChars [('\x00', '\x1f'), ('\x7f', '\x7f')])
  else if name = "digit" then some (range '0' '9')
  else if name = "graph" then some (range '!' '~')
  else if name = "lower" then some (range 'a' 'z')
  else if name = "print" then some (range ' ' '~')
  else if name = "punct" then
    some (ofChars [('!', '/'), (':', '@'), ('[', '\x60'), ('\x7b', '~')])
  else if name = "space" then some (ofChars [('\t', '\r'), (' ', ' ')])
  else if name = "upper" then some (range 'A' 'Z')
  else if name = "word" then some (ofChars [('0', '9'), ('A', 'Z'), ('_', '_'), ('a', 'z')])
  else if name = "xdigit" then some (ofChars [('0', '9'), ('A', 'F'), ('a', 'f')])
  else none

/-! ## Names of properties -/

/-- The part of a name that matters. The name of the whole category `c` cannot be told from that of
a property without a set once the `is` is gone. -/
def plainName (name : List Char) : String :=
  let keep (cs : List Char) : List Char :=
    (cs.filter fun c => c.toNat < 0x80 && c ≠ ' ' && c ≠ '_' && c ≠ '-').map Char.toLower
  match name with
  | 'i' :: 's' :: rest | 'i' :: 'S' :: rest | 'I' :: 's' :: rest | 'I' :: 'S' :: rest =>
    if keep rest = ['c'] then "isc" else String.ofList (keep rest)
  | _ => String.ofList (keep name)

/-! ## General categories -/

/-- The symbols in any of several lists of ranges. -/
def ofParts (parts : List (List (Nat × Nat))) : CharSet :=
  parts.foldr (fun ranges s => union ⟨ranges⟩ s) empty

/-- The symbols in the general categories whose first name is given. -/
def inCategories (names : List String) : CharSet :=
  ofParts ((Unicode.categories.filter fun c => names.any c.names.contains).map (·.ranges))

/-- The symbols with an assigned code point. -/
def assigned : CharSet := ofParts (Unicode.categories.map (·.ranges))

/-- Groups of general categories, with their names. -/
def categoryGroups : List (List String × List String) :=
  [(["l", "letter"], ["lu", "ll", "lt", "lm", "lo"]), (["lc", "casedletter"], ["lu", "ll", "lt"]),
    (["m", "mark", "combiningmark"], ["mn", "mc", "me"]), (["n", "number"], ["nd", "nl", "no"]),
    (["p", "punctuation", "punct"], ["pc", "pd", "ps", "pe", "pi", "pf", "po"]),
    (["s", "symbol"], ["sm", "sc", "sk", "so"]), (["z", "separator"], ["zs", "zl", "zp"])]

/-- The general category, or group of them, with a given name. The group `c` is that of all symbols
that are not in another group. -/
def category? (name : String) : Option CharSet :=
  if name = "any" then some empty.compl
  else if name = "ascii" then some (range '\x00' '\x7f')
  else if name = "assigned" then some assigned
  else if name = "cn" || name = "unassigned" then some assigned.compl
  else if name = "c" || name = "other" then
    some ((inCategories ["cc", "cf", "co"]).union assigned.compl)
  else
    match categoryGroups.find? (·.1.contains name) with
    | some (_, members) => some (inCategories members)
    | none => (Unicode.categories.find? (·.names.contains name)).map fun c => ⟨c.ranges⟩

/-! ## Scripts and properties -/

/-- The script with a given name. -/
def script? (name : String) : Option CharSet :=
  (Unicode.scripts.find? (·.names.contains name)).map fun s => ⟨s.ranges⟩

/-- The property with a given name. -/
def property? (name : String) : Option CharSet :=
  (Unicode.properties.find? (·.names.contains name)).map fun p => ofParts p.parts

/-- The set with a given name, taken for a property before a category and for that before a
script. -/
def named? (name : List Char) : Option CharSet :=
  let name := plainName name
  property? name <|> category? name <|> script? name

/-- The set of the symbols that have a given value, where the name says of what. -/
def valued? (name value : List Char) : Option CharSet :=
  let name := plainName name
  if name = "gc" || name = "generalcategory" then category? (plainName value)
  else if name = "sc" || name = "script" then script? (plainName value)
  else none

end Parlance.Regex.CharSet
