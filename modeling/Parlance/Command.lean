import Parlance.Value

/-!
# Commands

What a message means once it has been understood: how it opened, which name of the command was
used, the arguments by name, and the text that was left. Arguments are kept in the order of their
names.
-/

namespace Parlance

/-- Values by name, in ascending order of names and at most one for each. -/
abbrev ArgumentMap : Type := List (String × Value)

namespace ArgumentMap

/-- Gives the name a value, in place of the one it may have. -/
def insert (name : String) (value : Value) : ArgumentMap → ArgumentMap
  | [] => [(name, value)]
  | (other, v) :: arguments =>
    if name = other then (name, value) :: arguments
    else if name < other then (name, value) :: (other, v) :: arguments
    else (other, v) :: insert name value arguments

/-- Gives every name its value. -/
def ofList (pairs : List (String × Value)) : ArgumentMap :=
  pairs.foldl (fun arguments (name, value) => insert name value arguments) []

end ArgumentMap

/-- A command as it was given. -/
structure Command where
  /-- The opening exactly as written. -/
  opening : String
  /-- The name that was used. -/
  label : String
  arguments : ArgumentMap
  /-- The text after the arguments, with the blanks inside it. -/
  remaining : String
deriving DecidableEq, Repr

namespace Command

/-- The value of an argument. -/
def get? (c : Command) (name : String) : Option Value := List.lookup name c.arguments

/-- The value of an argument, if it is a string. -/
def text? (c : Command) (name : String) : Option String := (c.get? name).bind Value.asStr

/-- The command in JSON. -/
def toJson (c : Command) : Json :=
  .object [
    ("prefix", .string c.opening),
    ("label", .string c.label),
    ("args", .object (c.arguments.map fun (name, value) => (name, value.toJson))),
    ("remaining", .string c.remaining)]

/-- The command with its parts named, for a reader. -/
def describe (c : Command) : String :=
  let arguments := c.arguments.map fun (name, value) => Text.quote name ++ ": " ++ value.describe
  "Command \x7b prefix: " ++ Text.quote c.opening ++ ", label: " ++ Text.quote c.label ++
    ", args: \x7b" ++ ", ".intercalate arguments ++ "\x7d, remaining: " ++
    Text.quote c.remaining ++ " \x7d"

end Command

end Parlance
