import Descent.Json
import Descent.Parser
import Descent.State

set_option autoImplicit false

/-!
Outputs, states and parsers as documents, and as text that shows how they are made up.

As a document an output is its leaf, or the array of its items, and a state leaves out its depth
and shows its failure as a message. The text that shows the make-up leaves nothing out.
-/

namespace Descent

namespace Output

variable {α : Type}

mutual

/-- An output as a document, given its leaves as documents. -/
def toJson (leaf : α → Json) : Output α → Json
  | .value content => leaf content
  | .list items => .array (itemsToJson leaf items)

/-- Several outputs as documents. -/
def itemsToJson (leaf : α → Json) : List (Output α) → List Json
  | [] => []
  | item :: items => item.toJson leaf :: itemsToJson leaf items

end

mutual

/-- The make-up of an output, given that of its leaves. -/
def inspect (leaf : α → String) : Output α → String
  | .value content => "Value(" ++ leaf content ++ ")"
  | .list items => "List([" ++ ", ".intercalate (inspectItems leaf items) ++ "])"

/-- The make-up of several outputs. -/
def inspectItems (leaf : α → String) : List (Output α) → List String
  | [] => []
  | item :: items => item.inspect leaf :: inspectItems leaf items

end

end Output

/-- A value of several named fields, as text. -/
def inspectFields (name : String) (fields : List (String × String)) : String :=
  name ++ " \x7b " ++
    ", ".intercalate (fields.map fun (field, value) => field ++ ": " ++ value) ++ " \x7d"

/-- The make-up of a failure. -/
def Failure.inspect : Failure → String
  | .unexpectedEnd matcher expected position =>
    inspectFields "UnexpectedEnd" [("matcher", Text.quoted matcher),
      ("expected", Text.quoted expected), ("position", toString position)]
  | .literalMismatch expected found position =>
    inspectFields "LiteralMismatch" [("expected", Text.quoted expected),
      ("found", Text.quoted found), ("position", toString position)]
  | .patternMismatch pattern position =>
    inspectFields "PatternMismatch" [("pattern", Text.quoted pattern),
      ("position", toString position)]
  | .choiceExhausted position =>
    inspectFields "ChoiceExhausted" [("position", toString position)]
  | .emptyRepetition position =>
    inspectFields "EmptyRepetition" [("position", toString position)]
  | .emptySeparatedList position =>
    inspectFields "EmptySeparatedList" [("position", toString position)]
  | .nestingTooDeep limit position =>
    inspectFields "NestingTooDeep" [("limit", toString limit), ("position", toString position)]
  | .mapped message position cause =>
    inspectFields "Mapped" [("message", Text.quoted message), ("position", toString position),
      ("cause", cause.inspect)]

namespace State

/-- A state over texts as a document. -/
def toJson (state : State String) : Json :=
  .object [("text", .string state.text), ("position", .number state.position),
    ("result", state.result.toJson .string), ("error", .string state.errorMessage),
    ("failed", .bool state.failed)]

/-- The make-up of a state over texts. -/
def inspect (state : State String) : String :=
  inspectFields "ParseState" [("text", Text.quoted state.text),
    ("position", toString state.position), ("result", state.result.inspect Text.quoted),
    ("error",
      match state.error with
      | some failure => "Some(" ++ failure.inspect ++ ")"
      | none => "None"),
    ("depth", toString state.depth)]

end State

/-- A parser as text, which shows its name alone. -/
def Parser.inspect {R : Type → Type} {α : Type} (parser : Parser R α) : String :=
  "Parser \x7b name: " ++ Text.quoted parser.name ++ ", .. \x7d"

end Descent
