import Parlance.Command.Argument
import Parlance.Command.Opener
import Parlance.Parser.Pattern
import Parlance.Parser.Unordered
import Parlance.Token.Quoted

/-!
# Grammars

A grammar describes a parser of values, as data. Grammars can refer to rules by name, and rules
can refer to one another, which parsers as such cannot.

`Grammar.parserWith` is the parser that a grammar describes, given what each rule reads.
-/

namespace Parlance

/-- The tokens that have a name. -/
inductive TokenName where
  | digit
  | lowercase
  | uppercase
  | alpha
  | alphanumeric
  | whitespace
  | skip
  | gap
  | nat
  | int
  | word
  | escape
  | quotedString
  | string
  | greedyString
  | identifier
  | snowflake
  | userMention
  | channelMention
deriving DecidableEq, Repr

/-- What a parse written by hand does. -/
inductive Action where
  /-- Reads one symbol. -/
  | any
  /-- Looks at the symbol behind the cursor. -/
  | previous
  /-- Reads whole symbols, one by one, until that many bytes have been read, and gives the offset
  there. As long as this fits a machine word, it is what `Cursor.consume` does. -/
  | consume (bytes : Nat)
  /-- Fails with a message. -/
  | reject (message : String)
deriving DecidableEq, Repr

/-- What is done with a value that has been read. -/
inductive Finish where
  | identity
  /-- Gives the offset instead of the value. -/
  | offset
  /-- Reads one more symbol and gives both. -/
  | thenAdvance
  /-- Fails because of the text ahead. -/
  | rejectAhead
  /-- Fails because of the symbol just read. -/
  | rejectSymbol (expected : String)
  /-- Fails with a message. -/
  | reject (message : String)
deriving DecidableEq, Repr

/-- A description of a parser of values. -/
inductive Grammar where
  | token (name : TokenName)
  | literal (text : String)
  | range (low high : Char)
  | pattern (p : Pattern)
  | capture (p : Pattern)
  | quoted (delimiter : Char)
  | flag (name : String)
  /-- The opening of a message. -/
  | opener (mention : String)
  | positional (name : String) (kind : Grammar)
  | argument (name : String) (required : Bool) (kind : Grammar)
  | few (parts : List Grammar)
  | pick (branches : List Grammar)
  | unordered (branches : List Grammar)
  | many (g : Grammar)
  | sequence (g : Grammar)
  | optional (g : Grammar)
  | only (g : Grammar)
  | verbatim (g : Grammar)
  | spanned (g : Grammar)
  /-- The rule of that name. -/
  | lazy (rule : String)
  /-- The grammar itself, in parentheses. -/
  | grouped (g : Grammar)
  /-- The grammar itself, with its attempts counted. -/
  | metered (g : Grammar)
  | raw (tag : String) (action : Action)
  | map (tag : String) (finish : Finish) (g : Grammar)
deriving Repr

/-! ## Values -/

namespace Value

/-- A list of symbols as a value. -/
def ofStrings (texts : List String) : Value := .list (texts.map .str)

/-- What a pattern has captured: the text and the texts of its groups. -/
def ofCaptured (c : Captured) : Value := .list [.str c.matched, ofStrings c.groups]

/-- A value with its span. -/
def ofSpanned (v : Value × Span) : Value := .list [v.1, .nat v.2.start, .nat v.2.stop]

end Value

/-! ## Parsers -/

/-- The parser of a named token. -/
def TokenName.parser : TokenName → Parser Value
  | .digit => Token.digit.convert .char
  | .lowercase => Token.lowercase.convert .char
  | .uppercase => Token.uppercase.convert .char
  | .alpha => Token.alpha.convert .char
  | .alphanumeric => Token.alphanumeric.convert .char
  | .whitespace => Token.whitespace.convert .str
  | .skip => Token.skip.convert Value.ofStrings
  | .gap => Token.gap.convert Value.ofStrings
  | .nat => Token.nat.convert .nat
  | .int => Token.int.convert .int
  | .word => Token.word.convert .str
  | .escape => Token.escape.convert .char
  | .quotedString => Token.quotedString.convert .str
  | .string => Token.string.convert .str
  | .greedyString => Parser.rest.convert .str
  | .identifier => Token.identifier.convert .str
  | .snowflake => Token.snowflake.convert .nat
  | .userMention => Token.userMention.convert .mention
  | .channelMention => Token.channelMention.convert .mention

/-- A symbol that may be missing as a value. -/
def Value.ofSymbol (c : Option Char) : Value := .ofOption (c.map .char)

/-- The parse of an action. -/
def Action.run : Action → Parse Value
  | .any => do
    match ← Parse.advance with
    | some c => pure (.char c)
    | none => Parse.fail (Cursor.unexpectedEnd "any symbol")
  | .previous => do
    let c ← Parse.get
    pure (.ofSymbol (c.lookbehind 1))
  | .consume bytes => do
    Parse.modify (·.advanceBytes bytes)
    let c ← Parse.get
    pure (.nat c.offset)
  | .reject message => Parse.reject message

/-- What is made of a value. -/
def Finish.run : Finish → Value → Parse Value
  | .identity, v => pure v
  | .offset, _ => do
    let c ← Parse.get
    pure (.nat c.offset)
  | .thenAdvance, v => do
    let next ← Parse.advance
    pure (.list [v, .ofSymbol next])
  | .rejectAhead, _ => Parse.fail Cursor.expectedEnd
  | .rejectSymbol expected, _ => Parse.fail (Cursor.unexpectedSymbol expected)
  | .reject message, _ => Parse.reject message

namespace Grammar

mutual

/-- The parser that a grammar describes, where `rule` is what each rule reads. -/
def parserWith (rule : String → Parse Value) : Grammar → Parser Value
  | .token name => name.parser
  | .literal text => (Parser.literal text).convert .str
  | .range low high => (Parser.range low high).convert .char
  | .pattern p => (Parser.pattern p).convert .str
  | .capture p => (Parser.capture p).convert Value.ofCaptured
  | .quoted delimiter => (Token.quoted delimiter).convert .str
  | .flag name => (Command.flag name).convert .str
  | .opener mention => (Command.opener mention).convert .str
  | .positional name kind => Command.positional name (kind.parserWith rule)
  | .argument name required kind => Command.Argument.parser ⟨name, required, kind.parserWith rule⟩
  | .few parts => (Parser.few (Parser.parseAll (parsersWith rule parts))).convert .list
  | .pick branches => Parser.pick (parsersWith rule branches)
  | .unordered branches => (Parser.unordered (parsersWith rule branches)).convert .list
  | .many g => (Parser.many (g.parserWith rule)).convert .list
  | .sequence g => (Parser.sequence (g.parserWith rule)).convert .list
  | .optional g => (Parser.optional (g.parserWith rule)).convert Value.ofOption
  | .only g => Parser.only (g.parserWith rule)
  | .verbatim g => Parser.verbatim (g.parserWith rule)
  | .spanned g => (Parser.spanned (g.parserWith rule)).convert Value.ofSpanned
  | .lazy name => ⟨"lazy", false, rule name⟩
  | .grouped g => g.parserWith rule
  | .metered g => Parser.metered (g.parserWith rule)
  | .raw tag action => Parser.raw tag action.run
  | .map tag finish g => Parser.map tag (g.parserWith rule) finish.run

/-- The parsers of several grammars. -/
def parsersWith (rule : String → Parse Value) : List Grammar → List (Parser Value)
  | [] => []
  | g :: grammars => g.parserWith rule :: parsersWith rule grammars

end

end Grammar

end Parlance
