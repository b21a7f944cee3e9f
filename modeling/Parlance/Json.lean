import Parlance.Text.Hex

/-!
# JSON values and their text

The values that results are given in, and the compact text of a value: no blanks, members in the
order given, and in strings only what has to be escaped.
-/

namespace Parlance

/-- A JSON value whose numbers are integers. -/
inductive Json where
  | null
  | number (n : Int)
  | string (text : String)
  | array (items : List Json)
  | object (members : List (String × Json))
deriving Repr

namespace Json

/-- A symbol as it stands inside a string. Quotes, backslashes and control symbols are escaped,
five of the latter by a letter. -/
def escapeSymbol (c : Char) : String :=
  if c = '"' then "\\\""
  else if c = '\\' then "\\\\"
  else if c = '\n' then "\\n"
  else if c = '\r' then "\\r"
  else if c = '\t' then "\\t"
  else if c = '\x08' then "\\b"
  else if c = '\x0c' then "\\f"
  else if c.toNat < 0x20 then
    String.ofList ['\\', 'u', '0', '0', Text.hexDigit (c.toNat / 16), Text.hexDigit (c.toNat % 16)]
  else String.singleton c

/-- A string in quotes. -/
def quote (text : String) : String :=
  "\"" ++ String.join (text.toList.map escapeSymbol) ++ "\""

mutual

/-- The compact text of a value. -/
def render : Json → String
  | .null => "null"
  | .number n => toString n
  | .string text => quote text
  | .array items => "[" ++ ",".intercalate (renderItems items) ++ "]"
  | .object members => "\x7b" ++ ",".intercalate (renderMembers members) ++ "\x7d"

/-- The texts of the items of an array. -/
def renderItems : List Json → List String
  | [] => []
  | item :: items => item.render :: renderItems items

/-- The texts of the members of an object. -/
def renderMembers : List (String × Json) → List String
  | [] => []
  | (name, value) :: members => (quote name ++ ":" ++ value.render) :: renderMembers members

end

end Json

end Parlance
