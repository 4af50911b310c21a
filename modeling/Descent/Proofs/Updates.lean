import Descent.Proofs.Failing

set_option autoImplicit false

/-!
What can be done to a state from outside.

A grammar's own code may give a state another position, another result or a failure, and it may
apply parsers, in any order. Setting a failure clears the result, but a result that is given to a
state afterwards stays beside the failure. If no result is given to a failed state, then no failed
state has one (`reached_settled`); the updates that leave this so are exactly the careful ones
(`Update.run_settled_iff`).
-/

namespace Descent

/-- A change of a state that is open to a grammar's own code. -/
inductive Update (β : Type) where
  | progress (position : Nat) (output : Output β)
  | result (output : Output β)
  | error (failure : Failure)
  | cleared

namespace Update

variable {α β : Type}

/-- The state after an update. -/
def run (state : State α) : Update β → State β
  | .progress position output => state.withProgress position output
  | .result output => state.withResult output
  | .error failure => state.withError failure
  | .cleared => state.cleared

/-- A failed state is given no result. -/
def Careful (state : State α) : Update β → Prop
  | .progress _ output | .result output => state.failed = true → output = .empty
  | .error _ | .cleared => True

/-- Exactly the careful updates leave no result beside a failure. -/
theorem run_settled_iff (state : State α) (update : Update β) :
    (update.run state).Settled ↔ update.Careful state := by
  cases update with
  | progress position output => exact Iff.rfl
  | result output => exact Iff.rfl
  | error failure => exact iff_of_true (.of_empty rfl) trivial
  | cleared => exact iff_of_true (.of_empty rfl) trivial

end Update

/-- Which updates may be made in a state. -/
abbrev Discipline : Type 1 := {α β : Type} → State α → Update β → Prop

/-- The second state comes from the first by allowed updates. -/
inductive Updated (allowed : Discipline) {α : Type} (before : State α) :
    {β : Type} → State β → Prop where
  | none : Updated allowed before before
  | more {β γ : Type} {after : State β} {update : Update γ} :
      Updated allowed before after → allowed after update →
      Updated allowed before (update.run after)

theorem Updated.settled {α β : Type} {before : State α} {after : State β}
    (updated : Updated Update.Careful before after) (settled : before.Settled) : after.Settled := by
  cases updated with
  | none => exact settled
  | more _ careful => exact (Update.run_settled_iff _ _).mpr careful

/-- The changes among some steps. -/
def Steps.moves {R : Type → Type} {α : Type} : Steps R α → List (State α → State α)
  | .done => []
  | .move change rest => change :: rest.moves
  | .apply _ _ rest => rest.moves

/-- The parsers among some steps. -/
def Steps.parsers {R : Type → Type} {α : Type} : Steps R α → List (Parser R α)
  | .done => []
  | .move _ rest => rest.parsers
  | .apply _ parser rest => parser :: rest.parsers

namespace Parser

variable {R : Type → Type}

/-- A parser whose own steps, if it has any, make allowed updates only. -/
inductive Obeys (allowed : Discipline) : {α : Type} → Parser R α → Prop where
  | literal (expected : String) : Obeys allowed (.literal expected)
  | pattern (expected : Pattern) : Obeys allowed (.pattern expected)
  | run (kind : CharRun) : Obeys allowed (.run kind)
  | sequence {α : Type} {parsers : List (Parser R α)} :
      (∀ parser ∈ parsers, Obeys allowed parser) → Obeys allowed (.sequence (.ofList parsers))
  | choice {α : Type} {alternatives : List (Parser R α)} :
      (∀ parser ∈ alternatives, Obeys allowed parser) →
      Obeys allowed (.choice (.ofList alternatives))
  | many {α : Type} {body : Parser R α} : Obeys allowed body → Obeys allowed (.many body)
  | many1 {α : Type} {body : Parser R α} : Obeys allowed body → Obeys allowed (.many1 body)
  | sepBy {σ α : Type} {separator : Parser R σ} {value : Parser R α} :
      Obeys allowed separator → Obeys allowed value → Obeys allowed (.sepBy separator value)
  | sepBy1 {σ α : Type} {separator : Parser R σ} {value : Parser R α} :
      Obeys allowed separator → Obeys allowed value → Obeys allowed (.sepBy1 separator value)
  | between {l r α : Type} {left : Parser R l} {right : Parser R r} {content : Parser R α} :
      Obeys allowed left → Obeys allowed right → Obeys allowed content →
      Obeys allowed (.between left right content)
  | lazy {α : Type} (cell : Nat) (limit : UInt64) (rule : R α) :
      Obeys allowed (.lazy cell limit rule)
  | named {α : Type} (name : String) {parser : Parser R α} :
      Obeys allowed parser → Obeys allowed (.named name parser)
  | map {α β : Type} {parser : Parser R α} (f : Output α → Output β) :
      Obeys allowed parser → Obeys allowed (.map parser f)
  | chain {α β : Type} {parser : Parser R α} {next : Output α → Parser R β} :
      Obeys allowed parser → (∀ output, Obeys allowed (next output)) →
      Obeys allowed (.chain parser next)
  | errorMap {α : Type} {parser : Parser R α} (message : Failure → Nat → String) :
      Obeys allowed parser → Obeys allowed (.errorMap parser message)
  | custom {α : Type} (name : String) {steps : Steps R α} :
      (∀ change ∈ steps.moves, ∀ state, Updated allowed state (change state)) →
      (∀ parser ∈ steps.parsers, Obeys allowed parser) → Obeys allowed (.custom name steps)

/-- A parser without steps of its own makes no updates. -/
theorem Standard.obeys {allowed : Discipline} {α : Type} {parser : Parser R α}
    (standard : parser.Standard) : parser.Obeys allowed := by
  induction standard with
  | literal expected => exact .literal expected
  | pattern expected => exact .pattern expected
  | run kind => exact .run kind
  | sequence _ ih => exact .sequence ih
  | choice _ ih => exact .choice ih
  | many _ ih => exact .many ih
  | many1 _ ih => exact .many1 ih
  | sepBy _ _ separator value => exact .sepBy separator value
  | sepBy1 _ _ separator value => exact .sepBy1 separator value
  | between _ _ _ left right content => exact .between left right content
  | lazy cell limit rule => exact .lazy cell limit rule
  | named name _ ih => exact .named name ih
  | map f _ ih => exact .map f ih
  | chain _ _ first second => exact .chain first second
  | errorMap message _ ih => exact .errorMap message ih

/-- A step that keeps failed states without results. -/
def KeepsSettled {α : Type} (step : State α → Traced (State α)) : Prop :=
  ∀ state : State α, state.Settled → (step state).value.Settled

variable {α : Type} {enter : Enter R}

theorem chooseWith_keepsSettled {scope : Address} {alternatives : List (Parser R α)}
    (keeps : ∀ parser ∈ alternatives, KeepsSettled (traceWith enter scope parser)) :
    KeepsSettled (chooseWith enter scope (.ofList alternatives)) := by
  induction alternatives with
  | nil => exact fun _ _ => .of_empty rfl
  | cons parser rest ih =>
    intro state settled
    simp only [Parsers.ofList, chooseWith, Traced.value_bind]
    split
    · exact keeps parser (by simp) state settled
    · exact ih (fun parser member => keeps parser (by simp [member])) state settled

theorem stepWith_keepsSettled : ∀ (steps : Steps R α) (scope : Address),
    (∀ change ∈ steps.moves, ∀ state : State α, state.Settled → (change state).Settled) →
    (∀ parser ∈ steps.parsers, ∀ scope, KeepsSettled (traceWith enter scope parser)) →
    KeepsSettled (stepWith enter scope steps)
  | .done, _, _, _, _, settled => settled
  | .move change rest, scope, moves, keeps, state, settled => by
    have moved := moves change (by simp [Steps.moves]) state settled
    refine stepWith_keepsSettled rest scope ?_ keeps _ moved
    exact fun change member => moves change (by simp [Steps.moves, member])
  | .apply cell parser rest, scope, moves, keeps, state, settled => by
    have applied := keeps parser (by simp [Steps.parsers]) (cell :: scope) state settled
    refine stepWith_keepsSettled rest scope moves ?_ _ applied
    exact fun parser member => keeps parser (by simp [Steps.parsers, member])

theorem traceWith_keepsSettled
    (enters : ∀ {α : Type} (address : Address) (rule : R α), KeepsSettled (enter address rule))
    {parser : Parser R α} (careful : parser.Obeys Update.Careful) (scope : Address) :
    KeepsSettled (traceWith enter scope parser) := by
  induction careful generalizing scope with
  | literal expected => exact fun _ _ => settled_unlessFailed (matchLiteral_settled _)
  | pattern expected => exact fun _ _ => settled_unlessFailed (matchPattern_settled _ _)
  | run kind => exact fun _ _ => settled_unlessFailed (matchPattern_settled _ _)
  | sequence _ _ => exact fun _ _ => settled_unlessFailed fun _ => sequenceWith_settled _ _
  | choice _ ih =>
    intro state settled
    have chosen := chooseWith_keepsSettled fun parser member => ih parser member scope
    exact settled_unlessFailed fun _ => chosen state settled
  | many _ _ => exact fun _ _ => settled_unlessFailed fun _ => repeatFrom_settled _ _ _
  | many1 _ _ =>
    exact fun state _ =>
      settled_unlessFailed fun _ => (repeatFrom_settled _ (stepBound state) _).requireItems _
  | sepBy _ _ _ _ => exact fun _ _ => settled_unlessFailed fun _ => separateFrom_settled _ _ _ _
  | sepBy1 _ _ _ _ =>
    exact fun state _ =>
      settled_unlessFailed fun _ => (separateFrom_settled _ _ (stepBound state) _).requireItems _
  | between _ _ _ _ _ _ =>
    intro state _
    refine settled_unlessFailed fun _ => bind_cleared_settled fun _ => ?_
    refine bind_cleared_settled fun _ => bind_cleared_settled fun closed => ?_
    exact .of_running closed
  | lazy cell limit rule =>
    intro state _
    refine settled_unlessFailed fun _ => ?_
    split
    · exact .of_empty rfl
    · exact enters (cell :: scope) rule _ (.of_empty rfl)
  | named _ _ ih => exact ih scope
  | map f _ _ =>
    intro state _
    simp only [traceWith, value_application]
    exact bind_cleared_settled fun running => .of_running running
  | chain _ _ _ second =>
    intro state _
    simp only [traceWith, value_application]
    exact bind_cleared_settled fun _ => second _ scope _ (.of_empty rfl)
  | errorMap message _ ih =>
    intro state settled
    have inner := ih scope state settled
    simp only [traceWith, value_application, Traced.value_bind]
    split
    · exact inner
    · exact .of_empty rfl
  | custom name moves _ ih =>
    intro state settled
    refine stepWith_keepsSettled _ scope ?_ ih state settled
    exact fun change member state => (moves change member state).settled

theorem traceLevels_keepsSettled {grammar : Grammar R}
    (rules : ∀ (α : Type) (rule : R α), (grammar α rule).Obeys Update.Careful) (levels : Nat)
    {parser : Parser R α} (careful : parser.Obeys Update.Careful) (scope : Address) :
    KeepsSettled (traceLevels grammar levels scope parser) := by
  induction levels generalizing α scope with
  | zero => exact fun _ _ => .of_empty rfl
  | succ levels ih =>
    refine traceWith_keepsSettled ?_ careful scope
    intro α address rule
    exact ih (rules α rule) address

end Parser

/-- The states that a grammar's own code can reach in a text. -/
inductive Reached {R : Type → Type} (allowed : Discipline) (grammar : Grammar R) (text : String) :
    {α : Type} → State α → Prop where
  | start {α : Type} : Reached allowed grammar text (.start text : State α)
  | update {α β : Type} {state : State α} (update : Update β) :
      Reached allowed grammar text state → allowed state update →
      Reached allowed grammar text (update.run state)
  | apply {α : Type} {state : State α} {parser : Parser R α} :
      parser.Obeys allowed → Reached allowed grammar text state →
      Reached allowed grammar text (parser.apply grammar state)

/-- If no result is ever given to a failed state, then no failed state has a result, and to clear it
changes nothing. -/
theorem reached_settled {R : Type → Type} {grammar : Grammar R}
    (rules : ∀ (α : Type) (rule : R α), (grammar α rule).Obeys Update.Careful) (text : String)
    {α : Type} {state : State α} (reached : Reached Update.Careful grammar text state)
    (failed : state.failed = true) : state.result = .empty ∧ state.cleared = state := by
  have settled : state.Settled := by
    clear failed
    induction reached with
    | start => exact .of_empty rfl
    | update update _ careful _ => exact (Update.run_settled_iff _ _).mpr careful
    | apply careful _ ih =>
      exact Parser.traceLevels_keepsSettled rules Parser.allLevels careful [] _ ih
  have empty := settled failed
  refine ⟨empty, ?_⟩
  rw [State.cleared, State.withResult, ← empty]

namespace Brackets

/-- What was read before a failure is given up with it. -/
theorem stopped_after_progress_settled :
    let stopped : State String :=
      ((State.start "abc" : State String).withProgress 2 (.value "ab")).withError
        (.choiceExhausted 2)
    stopped.failed = true ∧ stopped.result = .empty ∧ stopped.cleared = stopped := by
  intro stopped
  have rules (α : Type) (rule : Rule α) : (grammar α rule).Obeys Update.Careful :=
    (grammarWithin_standard defaultLimit α rule).obeys
  have start : Reached Update.Careful grammar "abc" (State.start "abc" : State String) := .start
  have moved := start.update (.progress 2 (.value "ab")) fun failed => nomatch failed
  have reached := moved.update (.error (.choiceExhausted 2) : Update String) trivial
  exact ⟨rfl, reached_settled rules "abc" reached rfl⟩

/-- A result that is given to a failed state stays beside the failure. -/
theorem result_beside_failure :
    ¬∀ (text : String) (state : State String), Reached (fun _ _ => True) grammar text state →
      state.failed = true → state.result = .empty := by
  intro empty
  have start : Reached (fun _ _ => True) grammar "abc" (State.start "abc" : State String) := .start
  have stopped := start.update (.error (.choiceExhausted 0) : Update String) trivial
  have given := stopped.update (.result (.value "a")) trivial
  exact absurd (empty "abc" _ given rfl) (by simp [Update.run, Output.empty])

end Brackets

end Descent
