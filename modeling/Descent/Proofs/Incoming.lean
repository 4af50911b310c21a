import Descent.Proofs.Fatal

set_option autoImplicit false

/-!
What parsers take from the state they are given.

A standard parser never reads the result of the state it starts from, so that states that differ in
their results alone are the same to it. From a failed state it takes nothing but the failure: it
passes the state on without its result and lays over the failure the messages that stand above the
first part which stops at a failure by itself.
-/

namespace Descent

/-- The failure under messages laid over it at a position, the outermost one first. -/
def Failure.under (position : Nat) (messages : List (Failure → Nat → String))
    (failure : Failure) : Failure :=
  messages.foldr (fun message cause => .mapped (message cause position) position cause) failure

theorem Failure.rootCause_under (position : Nat) (messages : List (Failure → Nat → String))
    (failure : Failure) : (failure.under position messages).rootCause = failure.rootCause := by
  induction messages with
  | nil => rfl
  | cons message messages ih => exact ih

/-- The beginning or the end of an application. -/
def Event.IsBound : Event → Prop
  | .applied _ | .returned _ _ => True
  | _ => False

theorem recordsOf_of_bounds (built : List Address) {events : List Event}
    (bounds : ∀ event ∈ events, event.IsBound) : recordsOf built events = ([], built) := by
  refine recordsOf_of_unreported built ?_
  intro event member
  have bound := bounds event member
  cases event with
  | applied _ | returned _ _ => exact ⟨rfl, nofun⟩
  | _ => exact bound.elim

namespace Parser

variable {R : Type → Type} {α β : Type} {enter : Enter R} {scope : Address}

/-! ## The result -/

theorem chooseWith_cleared {alternatives : List (Parser R α)}
    (same : ∀ parser ∈ alternatives, ∀ state : State α,
      traceWith enter scope parser state.cleared = traceWith enter scope parser state)
    (state : State α) :
    chooseWith enter scope (.ofList alternatives) state.cleared =
      chooseWith enter scope (.ofList alternatives) state := by
  induction alternatives with
  | nil => rfl
  | cons parser rest ih =>
    have others := ih fun parser member => same parser (by simp [member])
    simp only [Parsers.ofList, chooseWith, same parser (by simp) state, others]
    rfl

theorem traceWith_cleared {parser : Parser R α} (standard : parser.Standard) (state : State α) :
    traceWith enter scope parser state.cleared = traceWith enter scope parser state := by
  induction standard with
  | choice _ ih =>
    simp only [traceWith, chooseWith_cleared ih state]
    rfl
  | named _ _ ih => exact ih state
  | errorMap message _ ih =>
    simp only [traceWith, ih state]
    rfl
  -- All others clear the state themselves, or write a result of their own.
  | _ => rfl

/-- Applied to states that differ in their results alone, a standard parser does the same and gives
the same state. So nothing is lost when a state is cleared for leaves of another type. -/
theorem apply_ignores_result (grammar : Grammar R) {parser : Parser R α}
    (standard : parser.Standard) {state other : State α} (text : state.text = other.text)
    (position : state.position = other.position) (error : state.error = other.error)
    (depth : state.depth = other.depth) :
    parser.apply grammar state = parser.apply grammar other ∧
      (parser.trace grammar state).events = (parser.trace grammar other).events ∧
      ∀ β : Type, parser.apply grammar (state.cleared : State β).cleared =
        parser.apply grammar state := by
  have unread (state : State α) : parser.trace grammar state.cleared = parser.trace grammar state :=
    traceWith_cleared standard state
  have same : (state.cleared : State α) = other.cleared := by
    obtain ⟨cursor, result, failure, levels⟩ := state
    obtain ⟨cursor', result', failure', levels'⟩ := other
    obtain rfl : cursor = cursor' := Text.Cursor.ext text position
    obtain rfl : failure = failure' := error
    obtain rfl : levels = levels' := depth
    rfl
  have traces : parser.trace grammar state = parser.trace grammar other := by
    rw [← unread state, same, unread other]
  refine ⟨congrArg Traced.value traces, congrArg Traced.events traces, ?_⟩
  intro β
  exact congrArg Traced.value (unread state)

end Parser

namespace Brackets

/-- What the state before a list held is nowhere in the list. -/
theorem nested_ignores_result :
    (nested 0 Rule.value).apply grammar ⟨.place "[a,[1]]" 0, .value "left over", none, 0⟩ =
      ⟨.place "[a,[1]]" 7, .list [.value "a", .list [.value "1"]], none, 0⟩ := by
  let state : State String := ⟨.place "[a,[1]]" 0, .value "left over", none, 0⟩
  let other : State String := .start "[a,[1]]"
  have text : state.text = other.text := rfl
  have position : state.position = other.position := rfl
  have standard : (nested 0 Rule.value).Standard := nestedWithin_standard ..
  obtain ⟨same, _, _⟩ := Parser.apply_ignores_result grammar standard text position rfl rfl
  rw [same]
  decide +kernel

end Brackets

namespace Parser

variable {R : Type → Type} {α β : Type} {enter : Enter R} {scope : Address}

/-! ## The failure -/

/-- The messages that a parser lays over the failure of the state it is given. -/
def messages {R : Type → Type} {α : Type} : Parser R α → List (Failure → Nat → String)
  | .errorMap parser message => message :: parser.messages
  | .named _ parser | .map parser _ | .chain parser _ => parser.messages
  | .literal _ | .pattern _ | .run _ | .sequence _ | .choice _ | .many _ | .many1 _ | .sepBy _ _
  | .sepBy1 _ _ | .between _ _ _ | .lazy _ _ _ | .custom _ _ => []

/-- Lays a message over the failure that comes out of some work. -/
def withMessage (message : Failure → Nat → String) (work : Traced (State α)) :
    Traced (State α) := do
  let after ← work
  match after.error with
  | none => return after
  | some cause =>
    return after.withError (.mapped (message cause after.position) after.position cause)

/-- A failed state goes through: nothing happens, and only messages are added. -/
structure PassesThrough (state : State α) (failure : Failure)
    (messages : List (Failure → Nat → String)) (work : Traced (State α)) : Prop where
  value : work.value = state.withError (failure.under state.position messages)
  bounds : ∀ event ∈ work.events, event.IsBound

variable {state : State α} {failure : Failure} {messages : List (Failure → Nat → String)}

theorem PassesThrough.cleared (raised : state.error = some failure) :
    PassesThrough state failure [] (pure state.cleared) := by
  constructor
  · exact congrArg (State.mk state.cursor .empty · state.depth) raised
  · simp

theorem PassesThrough.application {work : Traced (State α)}
    (passes : PassesThrough state failure messages work) :
    PassesThrough state failure messages (application state work) := by
  constructor
  · exact passes.value
  · intro event member
    have member : event = .applied state.position ∨ event ∈ work.events ∨
        event = .returned work.value.position work.value.error := by
      simpa [Parser.application] using member
    rcases member with rfl | member | rfl
    · trivial
    · exact passes.bounds event member
    · trivial

theorem PassesThrough.unlessFailed (raised : state.error = some failure)
    (work : Traced (State α)) :
    PassesThrough state failure [] (Parser.application state (unlessFailed state work)) := by
  have failed : state.failed = true := by simp [State.failed, raised]
  rw [Parser.unlessFailed, if_pos failed]
  exact (cleared raised).application

/-- The function that would be called with a result is not called. -/
theorem PassesThrough.bind_cleared {first : Traced (State β)} {next : State β → Traced (State α)}
    (passes : PassesThrough state.cleared failure messages first) :
    PassesThrough state failure messages (do
      let after ← first
      if after.failed then return after.cleared else next after) := by
  have failed : first.value.failed = true := by rw [passes.value]; rfl
  constructor
  · rw [Traced.value_bind, if_pos failed, Traced.value_pure, passes.value]
    rfl
  · rw [Traced.events_bind, if_pos failed, Traced.events_pure, List.append_nil]
    exact passes.bounds

theorem PassesThrough.withMessage {work : Traced (State α)} (message : Failure → Nat → String)
    (passes : PassesThrough state failure messages work) :
    PassesThrough state failure (message :: messages) (Parser.withMessage message work) := by
  constructor
  · rw [Parser.withMessage, Traced.value_bind, passes.value]
    rfl
  · rw [Parser.withMessage, Traced.events_bind, passes.value]
    simpa using passes.bounds

theorem traceWith_passesThrough {parser : Parser R α} (standard : parser.Standard)
    (raised : state.error = some failure) :
    PassesThrough state failure parser.messages (traceWith enter scope parser state) := by
  induction standard with
  | named _ _ ih => exact ih raised
  | map f _ ih => exact (PassesThrough.bind_cleared (ih raised)).application
  | chain _ _ first _ => exact (PassesThrough.bind_cleared (first raised)).application
  | errorMap message _ ih => exact ((ih raised).withMessage message).application
  | _ => exact .unlessFailed raised _

/-- A standard parser passes a failed state on without its result. Messages are laid over the
failure, at the position of the state, and neither its root cause nor whether it is fatal is changed.
Nothing is reported or built, no function is called with a result, and no matcher is run. -/
theorem failed_state_passes_through (grammar : Grammar R) {parser : Parser R α}
    (standard : parser.Standard) {state : State α} {failure : Failure}
    (raised : state.error = some failure) :
    parser.apply grammar state =
        state.withError (failure.under state.position parser.messages) ∧
      (failure.under state.position parser.messages).rootCause = failure.rootCause ∧
      (failure.under state.position parser.messages).isFatal = failure.isFatal ∧
      (∀ built, recordsOf built (parser.trace grammar state).events = ([], built)) ∧
      ∀ event ∈ (parser.trace grammar state).events, event.IsBound := by
  have passes : PassesThrough state failure parser.messages (parser.trace grammar state) :=
    traceWith_passesThrough standard raised
  have root := failure.rootCause_under state.position parser.messages
  refine ⟨passes.value, root, congrArg Failure.isNesting root, ?_, passes.bounds⟩
  intro built
  exact recordsOf_of_bounds built passes.bounds

end Parser

namespace Brackets

/-- The number of words, with a message about the number and one about the words. -/
def wordCount : Parser Rule String :=
  .errorMap (.named "count" (.map (.errorMap (.many .letters) fun _ _ => "no words")
    fun words => .value (toString words.leaves.length))) fun failure position =>
      "no count at index " ++ toString position ++ ": " ++ failure.message

theorem wordCount_standard : wordCount.Standard :=
  .errorMap _ (.named _ (.map _ (.errorMap _ (.many (.run _)))))

/-- A failure that was raised elsewhere gets both messages, and no words are counted. -/
theorem wordCount_passes_failure :
    let state : State String := ⟨.place "abc" 2, .value "ab", some (.choiceExhausted 0), 3⟩
    wordCount.apply grammar state =
        state.withError (.mapped "no count at index 2: no words" 2
          (.mapped "no words" 2 (.choiceExhausted 0))) ∧
      ∀ event ∈ (wordCount.trace grammar state).events, event.IsBound := by
  intro state
  have raised : state.error = some (.choiceExhausted 0) := rfl
  obtain ⟨passed, _, _, _, bounds⟩ :=
    Parser.failed_state_passes_through grammar wordCount_standard raised
  refine ⟨?_, bounds⟩
  rw [passed]
  decide +kernel

end Brackets

end Descent
