import Descent.Parser
import Descent.Text.Grapheme

set_option autoImplicit false

/-!
What parsers do.

`Parser.traceWith` follows the form of a parser and leaves open how a rule is entered.
`Parser.traceLevels` fills this in for so many rules inside each other; since every limit is a
64-bit number, as many as there are such numbers are always enough. A state that has failed goes
through unchanged but for its result, which is cleared.
-/

namespace Descent

/-- The number of grapheme clusters shown of a text that is not the expected one. -/
def previewLength : Nat := 10

/-- The beginning of a text, for messages. -/
def preview (rest : List Char) : String := String.ofList (Text.takeClusters previewLength rest)

namespace State

variable {α β : Type}

/-- The same state with an item put before the items of its result, unless it has failed. -/
def prepend (item : Output α) (state : State α) : State α :=
  if state.failed then state
  else
    match state.result with
    | .list items => state.withResult (.list (item :: items))
    | .value _ => state

/-- The state with a failure if it has the empty result and none yet. -/
def requireItems (failure : Nat → Failure) (state : State α) : State α :=
  if !state.failed && state.result.isEmpty then state.withError (failure state.position)
  else state

end State

namespace Parser

variable {α β σ : Type}

/-- Surrounds what a parser does by the events of its application. -/
def application (state : State α) (work : Traced (State α)) : Traced (State α) := do
  Traced.emit (.applied state.position)
  let after ← work
  Traced.emit (.returned after.position after.error)
  return after

/-- Leaves a failed state alone, without its result. -/
def unlessFailed (state : State α) (work : Traced (State α)) : Traced (State α) :=
  if state.failed then return state.cleared else work

/-- The text `expected` at the place of a state. -/
def matchLiteral (expected : String) (state : State String) : Traced (State String) := do
  let shown := Text.quoted expected
  Traced.emit (.tried .literal shown state.position)
  if state.rest.isEmpty then
    return state.withError (.unexpectedEnd Matcher.literal.word shown state.position)
  else if expected.toList.isPrefixOf state.rest then
    return state.consume expected.toList.length (.value expected)
  else
    return state.withError (.literalMismatch expected (preview state.rest) state.position)

/-- What a pattern matches at the place of a state; `matchLength?` gives the number of characters
of the match. -/
def matchPattern (source : String) (matchLength? : List Char → Option Nat)
    (state : State String) : Traced (State String) := do
  let shown := "/" ++ source ++ "/"
  Traced.emit (.tried .pattern shown state.position)
  if state.rest.isEmpty then
    return state.withError (.unexpectedEnd Matcher.pattern.word shown state.position)
  else
    match matchLength? state.rest with
    | some length =>
      return state.consume length (.value (String.ofList (state.rest.take length)))
    | none => return state.withError (.patternMismatch source state.position)

/-- A bound for the steps of a loop that ends. What a step does depends on the position and the depth
alone, so no step of such a loop starts where one before it did. Positions are 64-bit numbers or
places of the text, and the depth changes once at most, to that of the start of a text. -/
def stepBound (state : State α) : Nat := state.text.utf8ByteSize + 2 * UInt64.size

/-- A step again and again, up to the first that fails or that does not change the position. The
results make up a list. A failure that is fatal is the failure of the whole. -/
def repeatFrom (step : State α → Traced (State α)) : (bound : Nat) → State α → Traced (State α)
  | 0, current => return current.withResult (.list [])
  | bound + 1, current => do
    let next ← step current
    if next.failedFatally then return next.cleared
    else if next.failed then return current.withResult (.list [])
    else if next.position = current.position then return next.withResult (.list [next.result])
    else State.prepend next.result <$> repeatFrom step bound next.cleared

/-- Rounds of a value and a separator, up to the first that fails or that does not change the
position. The results of the values make up a list. A separator is consumed even if no value
follows. -/
def separateFrom (separator : State σ → Traced (State σ)) (value : State α → Traced (State α)) :
    (bound : Nat) → State α → Traced (State α)
  | 0, current => return current.withResult (.list [])
  | bound + 1, current => do
    let afterValue ← value current
    if afterValue.failedFatally then return afterValue.cleared
    else if afterValue.failed then return current.withResult (.list [])
    else
      let item := afterValue.result
      let afterSeparator ← separator afterValue.cleared
      if afterSeparator.failedFatally then return afterSeparator.cleared
      else if afterSeparator.failed then return afterValue.withResult (.list [item])
      else if afterSeparator.position = current.position then
        return afterSeparator.withResult (.list [item])
      else State.prepend item <$> separateFrom separator value bound afterSeparator.cleared

/-- How a rule is entered, given the address of what is built for it. -/
abbrev Enter (R : Type → Type) : Type 1 :=
  {α : Type} → Address → R α → State α → Traced (State α)

mutual

/-- Applies a parser to a state. The address is that of the rule in whose body the parser stands. -/
def traceWith {R : Type → Type} (enter : Enter R) (scope : Address) {α : Type} :
    Parser R α → State α → Traced (State α)
  | .literal expected, state => application state <| unlessFailed state <|
      matchLiteral expected state
  | .pattern expected, state => application state <| unlessFailed state <|
      matchPattern expected.source expected.matchLength? state
  | .run kind, state => application state <| unlessFailed state <|
      matchPattern kind.source kind.matchLength? state
  | .sequence parsers, state => application state <| unlessFailed state <|
      sequenceWith enter scope parsers state.cleared
  | .choice alternatives, state => application state <| unlessFailed state <|
      chooseWith enter scope alternatives state
  | .many body, state => application state <| unlessFailed state <|
      repeatFrom (traceWith enter scope body) (stepBound state) state.cleared
  | .many1 body, state => application state <| unlessFailed state <|
      State.requireItems .emptyRepetition <$>
        repeatFrom (traceWith enter scope body) (stepBound state) state.cleared
  | .sepBy separator value, state => application state <| unlessFailed state <|
      separateFrom (traceWith enter scope separator) (traceWith enter scope value)
        (stepBound state) state.cleared
  | .sepBy1 separator value, state => application state <| unlessFailed state <|
      State.requireItems .emptySeparatedList <$>
        separateFrom (traceWith enter scope separator) (traceWith enter scope value)
          (stepBound state) state.cleared
  | .between left right content, state => application state <| unlessFailed state <| do
      let afterLeft ← traceWith enter scope left state.cleared
      if afterLeft.failed then return afterLeft.cleared
      else
        let afterContent ← traceWith enter scope content afterLeft.cleared
        if afterContent.failed then return afterContent.cleared
        else
          let afterRight ← traceWith enter scope right afterContent.cleared
          if afterRight.failed then return afterRight.cleared
          else return afterRight.withResult afterContent.result
  | .lazy cell limit rule, state => application state <| unlessFailed state <|
      if limit.toNat ≤ state.depth then
        return state.withError (.nestingTooDeep limit.toNat state.position)
      else do
        let after ← enter (cell :: scope) rule (state.cleared.atDepth (state.depth + 1))
        return after.atDepth state.depth
  | .named _ parser, state => traceWith enter scope parser state
  | .map parser f, state => application state do
      let after ← traceWith enter scope parser state.cleared
      if after.failed then return after.cleared
      else
        Traced.emit .called
        return after.withResult (f after.result)
  | .chain parser next, state => application state do
      let after ← traceWith enter scope parser state.cleared
      if after.failed then return after.cleared
      else
        Traced.emit .called
        traceWith enter scope (next after.result) after.cleared
  | .errorMap parser message, state => application state do
      let after ← traceWith enter scope parser state
      match after.error with
      | none => return after
      | some cause =>
        return after.withError (.mapped (message cause after.position) after.position cause)
  | .custom _ steps, state => application state <| stepWith enter scope steps state

/-- Applies parsers one after the other. Their results make up a list; the first failure is the
failure of the whole. -/
def sequenceWith {R : Type → Type} (enter : Enter R) (scope : Address) {α : Type} :
    Parsers R α → State α → Traced (State α)
  | .nil, state => return state.withResult (.list [])
  | .cons parser rest, state => do
    let after ← traceWith enter scope parser state
    if after.failed then return after.cleared
    else State.prepend after.result <$> sequenceWith enter scope rest after.cleared

/-- Applies parsers to the same state, up to the first that succeeds or fails fatally. -/
def chooseWith {R : Type → Type} (enter : Enter R) (scope : Address) {α : Type} :
    Parsers R α → State α → Traced (State α)
  | .nil, state => return state.withError (.choiceExhausted state.position)
  | .cons parser rest, state => do
    let after ← traceWith enter scope parser state
    if !after.failed || after.failedFatally then return after
    else
      Traced.emit (.rejected parser.name state.position)
      chooseWith enter scope rest state

/-- Takes the steps of a grammar's own parser. -/
def stepWith {R : Type → Type} (enter : Enter R) (scope : Address) {α : Type} :
    Steps R α → State α → Traced (State α)
  | .done, state => return state
  | .move change rest, state => stepWith enter scope rest (change state)
  | .apply cell parser rest, state => do
    Traced.emit (.renewed (cell :: scope))
    let after ← traceWith enter (cell :: scope) parser state
    stepWith enter scope rest after

end

/-- Applies a parser, with at most so many rules inside each other. -/
def traceLevels {R : Type → Type} (grammar : Grammar R) :
    (levels : Nat) → {α : Type} → Address → Parser R α → State α → Traced (State α)
  | 0, _, _, _, state => return state.cleared
  | levels + 1, _, scope, parser, state =>
    traceWith (fun {α} address rule state => do
      let body := grammar α rule
      Traced.emit (.entered address body.name)
      let after ← traceLevels grammar levels address body state
      Traced.emit .left
      return after) scope parser state

/-- More rules inside each other than any limit admits. -/
def allLevels : Nat := UInt64.size

/-- Applies a parser to a state, with all events on the way. -/
def trace {R : Type → Type} (grammar : Grammar R) {α : Type} (parser : Parser R α)
    (state : State α) : Traced (State α) :=
  traceLevels grammar allLevels [] parser state

/-- Applies a parser to a state. -/
def apply {R : Type → Type} (grammar : Grammar R) {α : Type} (parser : Parser R α)
    (state : State α) : State α :=
  (trace grammar parser state).value

/-- Parses a text from its start, with all events on the way. -/
def traceText {R : Type → Type} (grammar : Grammar R) {α : Type} (parser : Parser R α)
    (text : String) : Traced (State α) := do
  Traced.emit (.started parser.name text.utf8ByteSize)
  let after ← trace grammar parser (.start text)
  Traced.emit <|
    match after.error with
    | some failure => .failed parser.name failure
    | none => .matched parser.name after.position
  return after

/-- Parses a text from its start. -/
def parse {R : Type → Type} (grammar : Grammar R) {α : Type} (parser : Parser R α)
    (text : String) : State α :=
  (traceText grammar parser text).value

end Parser

end Descent
