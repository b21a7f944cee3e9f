import Parlance.Json
import Parlance.Mention
import Parlance.Text.Escaped

/-!
# Values

What a grammar reads from a text: the closed set of things that an argument of a command can be.
`Value.toJson` forgets which of two kinds a value was wherever JSON has only one of them, and
`Value.describe` names the kind.
-/

namespace Parlance

/-- A value read from a text. -/
inductive Value where
  /-- No value: an optional argument that was left out. -/
  | null
  | str (text : String)
  | int (n : Int)
  | nat (n : Nat)
  | char (c : Char)
  | mention (m : Mention)
  | list (items : List Value)
deriving Repr

namespace Value

mutual

/-- Whether two values are the same, kind and all. -/
def decEq : (v w : Value) → Decidable (v = w)
  | .null, .null => isTrue rfl
  | .str s, .str t => if h : s = t then isTrue (by rw [h]) else isFalse (by simp [h])
  | .int m, .int n => if h : m = n then isTrue (by rw [h]) else isFalse (by simp [h])
  | .nat m, .nat n => if h : m = n then isTrue (by rw [h]) else isFalse (by simp [h])
  | .char c, .char d => if h : c = d then isTrue (by rw [h]) else isFalse (by simp [h])
  | .mention m, .mention n => if h : m = n then isTrue (by rw [h]) else isFalse (by simp [h])
  | .list vs, .list ws =>
    match decEqList vs ws with
    | isTrue h => isTrue (by rw [h])
    | isFalse h => isFalse (by simp [h])
  | .null, .str _ | .null, .int _ | .null, .nat _ | .null, .char _ | .null, .mention _
  | .null, .list _ | .str _, .null | .str _, .int _ | .str _, .nat _ | .str _, .char _
  | .str _, .mention _ | .str _, .list _ | .int _, .null | .int _, .str _ | .int _, .nat _
  | .int _, .char _ | .int _, .mention _ | .int _, .list _ | .nat _, .null | .nat _, .str _
  | .nat _, .int _ | .nat _, .char _ | .nat _, .mention _ | .nat _, .list _ | .char _, .null
  | .char _, .str _ | .char _, .int _ | .char _, .nat _ | .char _, .mention _ | .char _, .list _
  | .mention _, .null | .mention _, .str _ | .mention _, .int _ | .mention _, .nat _
  | .mention _, .char _ | .mention _, .list _ | .list _, .null | .list _, .str _ | .list _, .int _
  | .list _, .nat _ | .list _, .char _ | .list _, .mention _ => isFalse (by simp)

/-- Whether two lists of values are the same. -/
def decEqList : (vs ws : List Value) → Decidable (vs = ws)
  | [], [] => isTrue rfl
  | [], _ :: _ | _ :: _, [] => isFalse (by simp)
  | v :: vs, w :: ws =>
    match decEq v w, decEqList vs ws with
    | isTrue h, isTrue h' => isTrue (by rw [h, h'])
    | isFalse h, _ => isFalse (by simp [h])
    | _, isFalse h => isFalse (by simp [h])

end

instance : DecidableEq Value := decEq

/-! ## Views -/

def isNull (v : Value) : Bool := v = .null

def asStr : Value → Option String
  | .str text => some text
  | _ => none

/-- A number as an integer, unless it is too large to be one. -/
def asInt : Value → Option Int
  | .int n => some n
  | .nat n => if (n : Int) ≤ Token.maxInt then some n else none
  | _ => none

/-- A number as a natural number, unless it is negative. -/
def asNat : Value → Option Nat
  | .nat n => some n
  | .int n => if 0 ≤ n then some n.toNat else none
  | _ => none

def asMention : Value → Option Mention
  | .mention m => some m
  | _ => none

def asList : Value → Option (List Value)
  | .list items => some items
  | _ => none

/-! ## JSON -/

mutual

/-- The value in JSON. -/
def toJson : Value → Json
  | .null => .null
  | .str text => .string text
  | .int n => .number n
  | .nat n => .number n
  | .char c => .string (String.singleton c)
  | .mention m => .object [("kind", .string m.kind.name), ("id", .number m.id)]
  | .list items => .array (toJsonItems items)

/-- The items of a list in JSON. -/
def toJsonItems : List Value → List Json
  | [] => []
  | item :: items => item.toJson :: toJsonItems items

end

/-! ## For a reader -/

mutual

/-- The value with its kind, for a reader. -/
def describe : Value → String
  | .null => "Null"
  | .str text => "Str(" ++ Text.quote text ++ ")"
  | .int n => "Int(" ++ toString n ++ ")"
  | .nat n => "Nat(" ++ toString n ++ ")"
  | .char c => "Char(" ++ Text.quoteSymbol c ++ ")"
  | .mention m => "Mention(" ++ m.describe ++ ")"
  | .list items => "List([" ++ ", ".intercalate (describeItems items) ++ "])"

/-- The items of a list, for a reader. -/
def describeItems : List Value → List String
  | [] => []
  | item :: items => item.describe :: describeItems items

end

/-- The value of something that may be missing. -/
def ofOption : Option Value → Value
  | some v => v
  | none => .null

end Value

end Parlance
