import Descent.Parser.Run

set_option autoImplicit false

/-!
Two small grammars of bracketed text.

`nested` reads lists in square brackets whose items are words, numbers or lists again. `tokens`
reads words and numbers run together between round brackets.
-/

namespace Descent.Brackets

variable {R : Type → Type}

/-- A list in square brackets of values with commas between them, with at most `limit` lists inside
the outermost one. The rule is that of a value, and the cell keeps what is built for it. -/
def nestedWithin (limit : UInt64) (cell : Nat) (value : R String) : Parser R String :=
  .named "array" <|
    .between (.literal "[") (.literal "]") <|
      .sepBy (.literal ",") (.named "value" (.lazy cell limit value))

/-- A list with at most as many lists inside each other as a parser admits. -/
def nested (cell : Nat) (value : R String) : Parser R String :=
  nestedWithin defaultLimit cell value

/-- A value: a list, a word or a number. -/
def valueWithin (limit : UInt64) (value : R String) : Parser R String :=
  .choice (.ofList [nestedWithin limit 0 value, .letters, .digits])

/-- The message for what is no run of tokens. -/
def tokensMessage (failure : Failure) (position : Nat) : String :=
  "expected a parenthesized token run at index " ++ toString position ++ ": " ++ failure.message

/-- Words and numbers between round brackets. -/
def tokens : Parser R String :=
  .named "tokens" <|
    .errorMap
      (.between (.literal "(") (.literal ")") (.many (.choice (.ofList [.letters, .digits]))))
      tokensMessage

/-- The only rule of the bracket grammar. -/
inductive Rule : Type → Type where
  | value : Rule String

/-- The bracket grammar with a limit of its own. -/
def grammarWithin (limit : UInt64) : Grammar Rule
  | _, .value => valueWithin limit .value

/-- The bracket grammar. -/
def grammar : Grammar Rule := grammarWithin defaultLimit

/-- Which of the grammars is meant. -/
inductive Kind where
  | nested
  | tokens
  deriving DecidableEq, Repr

/-- The parser of a grammar. -/
def Kind.parser : Kind → Parser Rule String
  | .nested => Brackets.nested 0 .value
  | .tokens => Brackets.tokens

/-- Parses a text with one of the grammars. -/
def Kind.parse (kind : Kind) (text : String) : State String :=
  kind.parser.parse grammar text

end Descent.Brackets
