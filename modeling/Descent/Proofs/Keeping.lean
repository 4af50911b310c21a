import Descent.Log
import Descent.Proofs.Standard
import Mathlib.Logic.Function.Basic

set_option autoImplicit false

/-!
Parsers that keep what they build.

`Parser.traceWith` takes the body of a rule from the grammar each time that the rule is entered, and
what is reported of building is found out from the events afterwards. Here a parser has a memory
instead: the body is built when it is first needed, reported and kept, and from then on it is taken
from the memory. Where it is kept is its site, which the copies of a lazily built parser share.
-/

namespace Descent

/-- Where the lazily built parsers of a grammar are kept. -/
structure Layout (R : Type → Type) where
  /-- The site of a parser as a whole. -/
  root : Address
  /-- The site of a cell, in what is built at a site. -/
  locate : Address → Nat → Address
  /-- The site of what a function returns, in what is built at a site. Each call has a number of its
  own, so that a function may return copies of one parser or build a parser for each call. -/
  choose : Address → Nat → Address
  /-- The rule that is built at a site. -/
  rule : Address → Option ((α : Type) × R α)

mutual

/-- The lazily built parsers of a parser at a site are kept where the layout has their rules. Steps of
a grammar's own are not laid out. -/
def Parser.LaidOut {R : Type → Type} (layout : Layout R) (site : Address) {α : Type} :
    Parser R α → Prop
  | .literal _ | .pattern _ | .run _ => True
  | .sequence parsers | .choice parsers => parsers.LaidOut layout site
  | .many body | .many1 body | .named _ body | .map body _ | .errorMap body _ =>
    body.LaidOut layout site
  | .sepBy separator value | .sepBy1 separator value =>
    separator.LaidOut layout site ∧ value.LaidOut layout site
  | .between left right content =>
    left.LaidOut layout site ∧ right.LaidOut layout site ∧ content.LaidOut layout site
  | .lazy cell _ rule => layout.rule (layout.locate site cell) = some ⟨_, rule⟩
  | .chain parser next =>
    parser.LaidOut layout site ∧
      ∀ call output, (next output).LaidOut layout (layout.choose site call)
  | .custom _ _ => False

def Parsers.LaidOut {R : Type → Type} (layout : Layout R) (site : Address) {α : Type} :
    Parsers R α → Prop
  | .nil => True
  | .cons parser rest => parser.LaidOut layout site ∧ rest.LaidOut layout site

end

/-- What is built at a site is laid out there. -/
def Grammar.LaidOut {R : Type → Type} (grammar : Grammar R) (layout : Layout R) : Prop :=
  ∀ (site : Address) (α : Type) (rule : R α), layout.rule site = some ⟨α, rule⟩ →
    (grammar α rule).LaidOut layout site

/-- What a parser remembers. -/
structure Memory (R : Type → Type) where
  /-- The parsers that are kept, by their leaves and their sites. -/
  kept : (key : Type × Address) → Option (Parser R key.1)
  /-- The number of calls of functions that return parsers. -/
  calls : Nat

namespace Memory

variable {R : Type → Type} {α : Type}

/-- The memory of a parser that was only just built. -/
def empty (calls : Nat) : Memory R := ⟨fun _ => none, calls⟩

open Classical in
/-- The memory with a parser kept at a site. -/
noncomputable def keep (memory : Memory R) (site : Address) (parser : Parser R α) : Memory R :=
  { memory with kept := Function.update memory.kept (α, site) (some parser) }

open Classical in
theorem keep_self (memory : Memory R) (site : Address) (parser : Parser R α) :
    (memory.keep site parser).kept (α, site) = some parser := Function.update_self ..

open Classical in
theorem keep_of_ne (memory : Memory R) {site other : Address} (parser : Parser R α) (β : Type)
    (differ : other ≠ site) : (memory.keep site parser).kept (β, other) = memory.kept (β, other) :=
  Function.update_of_ne (by simp [differ]) ..

end Memory

/-- The site of a parser that is entered. -/
def Event.site? : Event → Option Address
  | .entered site _ => some site
  | _ => none

/-- An event, and whether a parser was built with it. -/
structure Noted where
  event : Event
  builds : Bool
  deriving DecidableEq, Repr

namespace Noted

/-- The site of a parser that is built. -/
def site? (noted : Noted) : Option Address := if noted.builds then noted.event.site? else none

/-- What is reported: that a parser is entered only when it is built. -/
def record? (noted : Noted) : Option Record :=
  if noted.event.site?.isSome && !noted.builds then none else noted.event.record?

end Noted

/-- A value, the events on the way to it and the memory after them. -/
structure Recalled (R : Type → Type) (α : Type) where
  value : α
  noted : List Noted
  memory : Memory R

/-- What is done with a memory. -/
def Recalling (R : Type → Type) (α : Type) : Type 1 := Memory R → Recalled R α

namespace Recalled

variable {R : Type → Type} {α : Type}

/-- The log of what was done. -/
def log (recalled : Recalled R α) : List Record := recalled.noted.filterMap Noted.record?

/-- The sites at which something was built. -/
def sites (recalled : Recalled R α) : List Address := recalled.noted.filterMap Noted.site?

/-- The log without the reports of what was built at some sites. -/
def logWithout (recalled : Recalled R α) (sites : List Address) : List Record :=
  (recalled.noted.filter fun noted => noted.site?.all fun site => !sites.contains site).filterMap
    Noted.record?

end Recalled

namespace Recalling

variable {R : Type → Type} {α β σ : Type}

instance : Monad (Recalling R) where
  pure value := fun memory => ⟨value, [], memory⟩
  bind work next := fun memory =>
    let first := work memory
    let second := next first.value first.memory
    ⟨second.value, first.noted ++ second.noted, second.memory⟩

/-- What builds nothing and chooses nothing. -/
def replay (traced : Traced α) : Recalling R α := fun memory =>
  ⟨traced.value, traced.events.map fun event => ⟨event, false⟩, memory⟩

def emit (event : Event) : Recalling R Unit := replay (Traced.emit event)

/-- The number of the next call of a function that returns a parser. -/
def nextCall : Recalling R Nat := fun memory =>
  ⟨memory.calls, [], { memory with calls := memory.calls + 1 }⟩

/-- One event. -/
def note (noted : Noted) : Recalling R Unit := fun memory => ⟨(), [noted], memory⟩

/-- From now on a parser is kept at a site. -/
noncomputable def store (site : Address) (parser : Parser R α) : Recalling R Unit := fun memory =>
  ⟨(), [], memory.keep site parser⟩

/-- Uses the parser that is kept at a site. If there is none, then it is built and kept. -/
noncomputable def obtain (grammar : Grammar R) (site : Address) (rule : R α)
    (use : Parser R α → Recalling R β) : Recalling R β := fun memory =>
  match memory.kept (α, site) with
  | some parser =>
    (do note ⟨.entered site parser.name, false⟩
        use parser : Recalling R β) memory
  | none =>
    let parser := grammar α rule
    (do note ⟨.entered site parser.name, true⟩
        store site parser
        use parser : Recalling R β) memory

section Obtain

variable {grammar : Grammar R} {site : Address} {rule : R α} {use : Parser R α → Recalling R β}
  {memory : Memory R}

theorem obtain_of_kept {parser : Parser R α} (kept : memory.kept (α, site) = some parser) :
    obtain grammar site rule use memory =
      let after := use parser memory
      ⟨after.value, ⟨.entered site parser.name, false⟩ :: after.noted, after.memory⟩ := by
  rw [obtain, kept]
  rfl

theorem obtain_of_lacking (lacking : memory.kept (α, site) = none) :
    obtain grammar site rule use memory =
      let after := use (grammar α rule) (memory.keep site (grammar α rule))
      ⟨after.value, ⟨.entered site (grammar α rule).name, true⟩ :: after.noted, after.memory⟩ := by
  rw [obtain, lacking]
  rfl

end Obtain

/-- Surrounds what a parser does by the events of its application. -/
def application (state : State α) (work : Recalling R (State α)) : Recalling R (State α) := do
  emit (.applied state.position)
  let after ← work
  emit (.returned after.position after.error)
  return after

/-- Leaves a failed state alone, without its result. -/
def unlessFailed (state : State α) (work : Recalling R (State α)) : Recalling R (State α) :=
  if state.failed then return state.cleared else work

/-- A step again and again, as in `Parser.repeatFrom`. -/
def repeatFrom (step : State α → Recalling R (State α)) :
    (bound : Nat) → State α → Recalling R (State α)
  | 0, current => return current.withResult (.list [])
  | bound + 1, current => do
    let next ← step current
    if next.failedFatally then return next.cleared
    else if next.failed then return current.withResult (.list [])
    else if next.position = current.position then return next.withResult (.list [next.result])
    else State.prepend next.result <$> repeatFrom step bound next.cleared

/-- Rounds of a value and a separator, as in `Parser.separateFrom`. -/
def separateFrom (separator : State σ → Recalling R (State σ))
    (value : State α → Recalling R (State α)) : (bound : Nat) → State α → Recalling R (State α)
  | 0, current => return current.withResult (.list [])
  | bound + 1, current => do
    let afterValue ← value current
    if afterValue.failedFatally then return afterValue.cleared
    else if afterValue.failed then return current.withResult (.list [])
    else
      let item := afterValue.result
      let afterSeparator ← separator afterValue.cleared
      if afterSeparator.failedFatally then return afterSeparator.cleared
      else if afterSeparator.failed then return afterValue.withResult (.list [item])
      else if afterSeparator.position = current.position then
        return afterSeparator.withResult (.list [item])
      else State.prepend item <$> separateFrom separator value bound afterSeparator.cleared

/-- How a rule is entered at a site. -/
abbrev Enter (R : Type → Type) : Type 1 :=
  {α : Type} → Address → R α → State α → Recalling R (State α)

mutual

/-- Applies a parser that stands in what is built at a site, as `Parser.traceWith` does. -/
def traceWith {R : Type → Type} (layout : Layout R) (enter : Enter R) (site : Address) {α : Type} :
    Parser R α → State α → Recalling R (State α)
  | .literal expected, state => application state <| unlessFailed state <|
      replay (Parser.matchLiteral expected state)
  | .pattern expected, state => application state <| unlessFailed state <|
      replay (Parser.matchPattern expected.source expected.matchLength? state)
  | .run kind, state => application state <| unlessFailed state <|
      replay (Parser.matchPattern kind.source kind.matchLength? state)
  | .sequence parsers, state => application state <| unlessFailed state <|
      sequenceWith layout enter site parsers state.cleared
  | .choice alternatives, state => application state <| unlessFailed state <|
      chooseWith layout enter site alternatives state
  | .many body, state => application state <| unlessFailed state <|
      repeatFrom (traceWith layout enter site body) (Parser.stepBound state) state.cleared
  | .many1 body, state => application state <| unlessFailed state <|
      State.requireItems .emptyRepetition <$>
        repeatFrom (traceWith layout enter site body) (Parser.stepBound state) state.cleared
  | .sepBy separator value, state => application state <| unlessFailed state <|
      separateFrom (traceWith layout enter site separator) (traceWith layout enter site value)
        (Parser.stepBound state) state.cleared
  | .sepBy1 separator value, state => application state <| unlessFailed state <|
      State.requireItems .emptySeparatedList <$>
        separateFrom (traceWith layout enter site separator) (traceWith layout enter site value)
          (Parser.stepBound state) state.cleared
  | .between left right content, state => application state <| unlessFailed state <| do
      let afterLeft ← traceWith layout enter site left state.cleared
      if afterLeft.failed then return afterLeft.cleared
      else
        let afterContent ← traceWith layout enter site content afterLeft.cleared
        if afterContent.failed then return afterContent.cleared
        else
          let afterRight ← traceWith layout enter site right afterContent.cleared
          if afterRight.failed then return afterRight.cleared
          else return afterRight.withResult afterContent.result
  | .lazy cell limit rule, state => application state <| unlessFailed state <|
      if limit.toNat ≤ state.depth then
        return state.withError (.nestingTooDeep limit.toNat state.position)
      else do
        let after ← enter (layout.locate site cell) rule (state.cleared.atDepth (state.depth + 1))
        return after.atDepth state.depth
  | .named _ parser, state => traceWith layout enter site parser state
  | .map parser f, state => application state do
      let after ← traceWith layout enter site parser state.cleared
      if after.failed then return after.cleared
      else
        emit .called
        return after.withResult (f after.result)
  | .chain parser next, state => application state do
      let after ← traceWith layout enter site parser state.cleared
      if after.failed then return after.cleared
      else
        emit .called
        let call ← nextCall
        traceWith layout enter (layout.choose site call) (next after.result) after.cleared
  | .errorMap parser message, state => application state do
      let after ← traceWith layout enter site parser state
      match after.error with
      | none => return after
      | some cause =>
        return after.withError (.mapped (message cause after.position) after.position cause)
  | .custom _ steps, state => application state <| stepWith layout enter site steps state

def sequenceWith {R : Type → Type} (layout : Layout R) (enter : Enter R) (site : Address)
    {α : Type} : Parsers R α → State α → Recalling R (State α)
  | .nil, state => return state.withResult (.list [])
  | .cons parser rest, state => do
    let after ← traceWith layout enter site parser state
    if after.failed then return after.cleared
    else State.prepend after.result <$> sequenceWith layout enter site rest after.cleared

def chooseWith {R : Type → Type} (layout : Layout R) (enter : Enter R) (site : Address)
    {α : Type} : Parsers R α → State α → Recalling R (State α)
  | .nil, state => return state.withError (.choiceExhausted state.position)
  | .cons parser rest, state => do
    let after ← traceWith layout enter site parser state
    if !after.failed || after.failedFatally then return after
    else
      emit (.rejected parser.name state.position)
      chooseWith layout enter site rest state

def stepWith {R : Type → Type} (layout : Layout R) (enter : Enter R) (site : Address)
    {α : Type} : Steps R α → State α → Recalling R (State α)
  | .done, state => return state
  | .move change rest, state => stepWith layout enter site rest (change state)
  | .apply cell parser rest, state => do
    let call ← nextCall
    let after ← traceWith layout enter (layout.choose (layout.locate site cell) call) parser state
    stepWith layout enter site rest after

end

/-- Applies a parser, with at most so many rules inside each other. -/
noncomputable def traceLevels {R : Type → Type} (layout : Layout R) (grammar : Grammar R) :
    (levels : Nat) → {α : Type} → Address → Parser R α → State α → Recalling R (State α)
  | 0, _, _, _, state => return state.cleared
  | levels + 1, _, site, parser, state =>
    traceWith layout (fun site rule state =>
      obtain grammar site rule fun body => do
        let after ← traceLevels layout grammar levels site body state
        emit .left
        return after) site parser state

/-- Parses a text from its start. -/
noncomputable def traceText {R : Type → Type} (layout : Layout R) (grammar : Grammar R) {α : Type}
    (parser : Parser R α) (text : String) : Recalling R (State α) := do
  emit (.started parser.name text.utf8ByteSize)
  let after ← traceLevels layout grammar Parser.allLevels layout.root parser (.start text)
  emit <|
    match after.error with
    | some failure => .failed parser.name failure
    | none => .matched parser.name after.position
  return after

/-- A value together with the log on the way to it. -/
def withLog (work : Recalling R α) : Recalling R (α × List Record) := fun memory =>
  let after := work memory
  ⟨(after.value, after.log), after.noted, after.memory⟩

/-- Parses one text after the other, with the same memory. -/
noncomputable def traceTexts {R : Type → Type} (layout : Layout R) (grammar : Grammar R) {α : Type}
    (parser : Parser R α) : List String → Recalling R (List (State α × List Record))
  | [] => return []
  | text :: texts => do
    let run ← withLog (traceText layout grammar parser text)
    let runs ← traceTexts layout grammar parser texts
    return run :: runs

theorem traceTexts_cons (layout : Layout R) (grammar : Grammar R) (parser : Parser R α)
    (text : String) (texts : List String) (memory : Memory R) :
    traceTexts layout grammar parser (text :: texts) memory =
      let run := traceText layout grammar parser text memory
      let runs := traceTexts layout grammar parser texts run.memory
      ⟨(run.value, run.log) :: runs.value, run.noted ++ runs.noted, runs.memory⟩ :=
  congrArg (fun noted => Recalled.mk _ (_ ++ noted) _) (List.append_nil _)

end Recalling

end Descent
