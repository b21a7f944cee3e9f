import Parlance.Json.Reader
import Parlance.Parser.Choice
import Parlance.Parser.Terminal
import Parlance.Parser.Wrapper

/-!
# How a message opens

A message is a command if it opens with a slash, with a dollar sign, or with the mention of the
bot. Which mention that is can be set, also from a small JSON text.
-/

namespace Parlance.Command

open Parlance.Parser

/-- The mention of the bot if none is set. -/
def defaultMention : String := "<@1384657966061326406>"

/-- The mention and at most one space after it. -/
def mentionOpener (mention : String) : Parser String :=
  map "mention" (few do
      let mention ← (literal mention).parse
      let space ← (optional (literal " ")).parse
      pure (mention, space))
    fun (mention, space) => pure (mention ++ space.getD "")

/-- The opening of a message, exactly as written. -/
def opener (mention : String) : Parser String :=
  pick [literal "/", literal "$", mentionOpener mention]

/-! ## Settings -/

/-- The settings that say how messages open. -/
structure OpenerConfig where
  mention : String
deriving DecidableEq, Repr

instance : Inhabited OpenerConfig := ⟨⟨defaultMention⟩⟩

/-- Reads a string from where its opening quote should be. -/
def readQuoted? (text : List Char) : Option (List Char × List Char) :=
  match Json.skipSpace text with
  | '"' :: rest => Json.readString? rest
  | _ => none

/-- Reads the members of the settings up to the closing brace, and gives the mention among them.
It may be set once. Members of other names are passed over. -/
def readMembers? : (fuel : Nat) → (found : Option (List Char)) → List Char →
    Option (Option (List Char) × List Char)
  | 0, _, _ => none
  | fuel + 1, found, text => do
    let (name, rest) ← readQuoted? text
    match Json.skipSpace rest with
    | ':' :: rest => do
      let (found, rest) ←
        if name = "mention".toList then
          if found.isSome then none
          else (readQuoted? rest).map fun (value, rest) => (some value, rest)
        else (Json.skipValue? rest).map fun rest => (found, rest)
      match Json.skipSpace rest with
      | ',' :: rest => readMembers? fuel found rest
      | '}' :: rest => some (found, rest)
      | _ => none
    | _ => none

/-- Reads settings that are given as an array: the mention alone, or nothing. -/
def readArray? (text : List Char) : Option (Option (List Char) × List Char) :=
  match Json.skipSpace text with
  | ']' :: rest => some (none, rest)
  | text => do
    let (value, rest) ← readQuoted? text
    match Json.skipSpace rest with
    | ']' :: rest => some (some value, rest)
    | _ => none

/-- Reads settings that are given as an object. -/
def readObject? (text : List Char) : Option (Option (List Char) × List Char) :=
  match Json.skipSpace text with
  | '}' :: rest => some (none, rest)
  | text => readMembers? (text.length + 1) none text

/-- Reads settings from a JSON text. A mention that is not set is the default one. -/
def OpenerConfig.read? (text : String) : Option OpenerConfig := do
  let (mention, rest) ← match Json.skipSpace text.toList with
    | '{' :: rest => readObject? rest
    | '[' :: rest => readArray? rest
    | _ => none
  if (Json.skipSpace rest).isEmpty then
    return match mention with
      | some mention => ⟨String.ofList mention⟩
      | none => default
  else none

end Parlance.Command
