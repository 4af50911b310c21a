import Descent.Pattern
import Descent.State
import Descent.Trace

set_option autoImplicit false

/-!
Parsers, as the expressions they are built from.

A parser yields an output over leaves of one type. It may refer to the rules of a grammar, which
are named by the elements of the types `R α`; a rule is only ever reached through `Parser.lazy`, so
that it may refer to itself.
-/

namespace Descent

/-- Runs of characters of one class of ASCII. -/
inductive CharRun where
  | letters
  | digits
  deriving DecidableEq, Repr

namespace CharRun

/-- The name of the parser for a run. -/
def name : CharRun → String
  | .letters => "letters"
  | .digits => "digits"

/-- A run as it is written in a pattern. -/
def source : CharRun → String
  | .letters => "[A-Za-z]+"
  | .digits => "[0-9]+"

/-- The characters of a run. -/
def accepts : CharRun → Char → Bool
  | .letters, char => char.isAlpha
  | .digits, char => char.isDigit

/-- The length of the run at the start of a text, if it has at least one character. -/
def matchLength? (kind : CharRun) (text : List Char) : Option Nat :=
  let length := (text.takeWhile kind.accepts).length
  if length = 0 then none else some length

end CharRun

mutual

/-- A parser over leaves of the type given last, with rules named by `R`. -/
inductive Parser (R : Type → Type) : Type → Type 1 where
  /-- The given text. -/
  | literal (expected : String) : Parser R String
  /-- What a pattern matches. -/
  | pattern (expected : Pattern) : Parser R String
  /-- A run of letters or of digits, as long as possible. -/
  | run (kind : CharRun) : Parser R String
  /-- All of several parsers, one after the other. -/
  | sequence {α : Type} (parsers : Parsers R α) : Parser R α
  /-- The first of several parsers to succeed, each tried at the same place. -/
  | choice {α : Type} (alternatives : Parsers R α) : Parser R α
  /-- A parser as often as it succeeds. -/
  | many {α : Type} (body : Parser R α) : Parser R α
  /-- A parser as often as it succeeds, at least once. -/
  | many1 {α : Type} (body : Parser R α) : Parser R α
  /-- Values with separators between them. Only the values are kept. -/
  | sepBy {σ α : Type} (separator : Parser R σ) (value : Parser R α) : Parser R α
  /-- At least one value, with separators between values. -/
  | sepBy1 {σ α : Type} (separator : Parser R σ) (value : Parser R α) : Parser R α
  /-- A parser between two others. Only its own result is kept. -/
  | between {l r α : Type} (left : Parser R l) (right : Parser R r) (content : Parser R α) :
      Parser R α
  /-- A rule of the grammar, built when it is first needed and kept in a cell. No more than `limit`
  rules may be open at once. -/
  | lazy {α : Type} (cell : Nat) (limit : UInt64) (rule : R α) : Parser R α
  /-- The same parser under another name. -/
  | named {α : Type} (name : String) (parser : Parser R α) : Parser R α
  /-- A parser with its result changed. -/
  | map {α β : Type} (parser : Parser R α) (f : Output α → Output β) : Parser R β
  /-- A parser, and after it the one chosen by its result. -/
  | chain {α β : Type} (parser : Parser R α) (next : Output α → Parser R β) : Parser R β
  /-- A parser with a message laid over its failure; the message may depend on the failure and on
  the position. -/
  | errorMap {α : Type} (parser : Parser R α) (message : Failure → Nat → String) : Parser R α
  /-- Steps of the grammar's own, under a name. -/
  | custom {α : Type} (name : String) (steps : Steps R α) : Parser R α

/-- A list of parsers. -/
inductive Parsers (R : Type → Type) : Type → Type 1 where
  | nil {α : Type} : Parsers R α
  | cons {α : Type} (parser : Parser R α) (rest : Parsers R α) : Parsers R α

/-- What a parser of the grammar's own does with a state. -/
inductive Steps (R : Type → Type) : Type → Type 1 where
  | done {α : Type} : Steps R α
  /-- Any change of the state. -/
  | move {α : Type} (change : State α → State α) (rest : Steps R α) : Steps R α
  /-- The application of a parser, which is built for this step each time that it is taken. The cell
  is that under which its own cells are kept. -/
  | apply {α : Type} (cell : Nat) (parser : Parser R α) (rest : Steps R α) : Steps R α

end

/-- The parser of each rule. -/
abbrev Grammar (R : Type → Type) : Type 1 := (α : Type) → R α → Parser R α

/-- The number of rules that may be open at once, unless a parser says otherwise. -/
def defaultLimit : UInt64 := 256

namespace Parsers

variable {R : Type → Type} {α : Type}

/-- The parsers of a list. -/
def ofList : List (Parser R α) → Parsers R α
  | [] => .nil
  | parser :: rest => .cons parser (ofList rest)

/-- The parsers as a list. -/
def toList : Parsers R α → List (Parser R α)
  | .nil => []
  | .cons parser rest => parser :: rest.toList

@[simp] theorem toList_ofList (parsers : List (Parser R α)) : (ofList parsers).toList = parsers := by
  induction parsers with
  | nil => rfl
  | cons parser rest ih => simp [ofList, toList, ih]

end Parsers

namespace Parser

variable {R : Type → Type} {α : Type}

/-- The parser of a pattern that matches at the current place. -/
def ofPattern (pattern : Pattern) : Parser R String := .pattern pattern.anchored

/-- One or more letters of ASCII. -/
def letters : Parser R String := .run .letters

/-- One or more digits of ASCII. -/
def digits : Parser R String := .run .digits

mutual

/-- The name of a parser, which tells how it is built. -/
def name {R : Type → Type} {α : Type} : Parser R α → String
  | .literal expected => "literal(" ++ Text.quoted expected ++ ")"
  | .pattern expected => "pattern(/" ++ expected.source ++ "/)"
  | .run kind => kind.name
  | .sequence parsers => "sequence_of(" ++ ", ".intercalate (names parsers) ++ ")"
  | .choice alternatives => "choice(" ++ " | ".intercalate (names alternatives) ++ ")"
  | .many body => "many(" ++ body.name ++ ")"
  | .many1 body => "many1(" ++ body.name ++ ")"
  | .sepBy separator value => "sep_by(" ++ separator.name ++ ", " ++ value.name ++ ")"
  | .sepBy1 separator value => "sep_by1(" ++ separator.name ++ ", " ++ value.name ++ ")"
  | .between left right content =>
    "between(" ++ left.name ++ ", " ++ content.name ++ ", " ++ right.name ++ ")"
  | .lazy _ _ _ => "lazy"
  | .named name _ => name
  | .map parser _ => "map(" ++ parser.name ++ ")"
  | .chain parser _ => "chain(" ++ parser.name ++ ")"
  | .errorMap parser _ => parser.name
  | .custom name _ => name

/-- The names of several parsers. -/
def names {R : Type → Type} {α : Type} : Parsers R α → List String
  | .nil => []
  | .cons parser rest => parser.name :: names rest

end

end Parser

end Descent
