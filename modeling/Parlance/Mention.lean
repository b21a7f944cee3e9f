import Parlance.Token.Number

/-!
# Mentions

A mention names a user or a channel of the chat by a number, its snowflake: `<@42>` is a user and
`<#42>` a channel.
-/

namespace Parlance

/-- What a mention refers to. -/
inductive MentionKind where
  | user
  | channel
deriving DecidableEq, Repr

/-- The text in front of the number. -/
def MentionKind.opening : MentionKind → String
  | .user => "<@"
  | .channel => "<#"

/-- The kind in one word. -/
def MentionKind.name : MentionKind → String
  | .user => "user"
  | .channel => "channel"

/-- The kind as it is named for a reader. -/
def MentionKind.describe : MentionKind → String
  | .user => "User"
  | .channel => "Channel"

/-- A reference to a user or a channel. -/
structure Mention where
  kind : MentionKind
  id : Nat
deriving DecidableEq, Repr

/-- The mention as it is written. -/
def Mention.text (m : Mention) : String := m.kind.opening ++ toString m.id ++ ">"

/-- The mention with its parts named, for a reader. -/
def Mention.describe (m : Mention) : String :=
  "Mention \x7b kind: " ++ m.kind.describe ++ ", id: " ++ toString m.id ++ " \x7d"

/-- The largest number that the chat gives out. -/
def maxSnowflake : Nat := 0x7FFFFFFFFFFFFFFF

namespace Token

open Parlance.Parser

/-- A number that the chat may have given out. -/
def snowflake : Parser Nat :=
  map "snowflake" nat fun id =>
    if id ≤ maxSnowflake then pure id else Parse.reject "Snowflake is out of bounds"

/-- A mention of the given kind, as one token. -/
def mention (kind : MentionKind) : Parser Mention :=
  map "mention" (verbatim (few do
      let _ ← (literal kind.opening).parse
      let id ← snowflake.parse
      let _ ← (literal ">").parse
      pure id))
    fun id => pure ⟨kind, id⟩

/-- A mention of a user. -/
def userMention : Parser Mention := mention .user

/-- A mention of a channel. -/
def channelMention : Parser Mention := mention .channel

end Token

end Parlance
