import Descent.Proofs.Standard

set_option autoImplicit false

/-!
A parse that fails has no result.

What was gathered before a failure is given up with it, so that every combinator that passes the
failure of a part on passes on the empty result.
-/

namespace Descent

namespace State

variable {α β : Type}

/-- A failed state has the empty result. -/
def Settled (state : State α) : Prop := state.failed = true → state.result = .empty

namespace Settled

theorem of_running {state : State α} (running : state.failed = false) : state.Settled := by
  intro failed
  simp [running] at failed

theorem of_empty {state : State α} (empty : state.result = .empty) : state.Settled := fun _ => empty

theorem prepend {state : State α} (settled : state.Settled) (item : Output α) :
    (state.prepend item).Settled := by
  unfold State.prepend
  split
  next => exact settled
  next running =>
    have running : state.failed = false := by simpa using running
    split <;> exact of_running running

theorem requireItems {state : State α} (settled : state.Settled) (failure : Nat → Failure) :
    (state.requireItems failure).Settled := by
  unfold State.requireItems
  split
  · exact of_empty rfl
  · exact settled

end Settled

end State

namespace Parser

open State (Settled)

variable {R : Type → Type} {α β σ : Type}

theorem settled_unlessFailed {state : State α} {work : Traced (State α)}
    (settled : state.failed = false → work.value.Settled) :
    (application state (unlessFailed state work)).value.Settled := by
  rw [value_application, value_unlessFailed]
  split
  next => exact .of_empty rfl
  next running => exact settled (by simpa using running)

theorem matchLiteral_settled (expected : String) {state : State String}
    (running : state.failed = false) : (matchLiteral expected state).value.Settled := by
  simp only [matchLiteral, Traced.value_bind]
  split
  · exact .of_empty rfl
  · split
    · exact .of_running running
    · exact .of_empty rfl

theorem matchPattern_settled (source : String) (matchLength? : List Char → Option Nat)
    {state : State String} (running : state.failed = false) :
    (matchPattern source matchLength? state).value.Settled := by
  simp only [matchPattern, Traced.value_bind]
  split
  · exact .of_empty rfl
  · split
    · exact .of_running running
    · exact .of_empty rfl

theorem repeatFrom_settled (step : State α → Traced (State α)) (bound : Nat) (state : State α) :
    (repeatFrom step bound state).value.Settled := by
  induction bound generalizing state with
  | zero => exact .of_empty rfl
  | succ bound ih =>
    simp only [repeatFrom, Traced.value_bind]
    split
    · exact .of_empty rfl
    · split
      next => exact .of_empty rfl
      next running =>
        have running : (step state).value.failed = false := by simpa using running
        split
        · exact .of_running running
        · exact (ih _).prepend _

theorem separateFrom_settled (separator : State σ → Traced (State σ))
    (value : State α → Traced (State α)) (bound : Nat) (state : State α) :
    (separateFrom separator value bound state).value.Settled := by
  induction bound generalizing state with
  | zero => exact .of_empty rfl
  | succ bound ih =>
    simp only [separateFrom, Traced.value_bind]
    split
    · exact .of_empty rfl
    · split
      next => exact .of_empty rfl
      next running =>
        have running : (value state).value.failed = false := by simpa using running
        simp only [Traced.value_bind]
        split
        · exact .of_empty rfl
        · split
          next => exact .of_running running
          next parted =>
            have parted : (separator (value state).value.cleared).value.failed = false := by
              simpa using parted
            split
            · exact .of_running parted
            · exact (ih _).prepend _

/-- A part whose failure is passed on without its result. -/
theorem bind_cleared_settled {first : Traced (State α)} {next : State α → Traced (State β)}
    (goesOn : first.value.failed = false → (next first.value).value.Settled) :
    (do
      let after ← first
      if after.failed then return after.cleared else next after).value.Settled := by
  rw [Traced.value_bind]
  split
  next => exact .of_empty rfl
  next running => exact goesOn (by simpa using running)

variable {enter : Enter R} {scope : Address}

theorem sequenceWith_settled (parsers : List (Parser R α)) (state : State α) :
    (sequenceWith enter scope (.ofList parsers) state).value.Settled := by
  induction parsers generalizing state with
  | nil => exact .of_empty rfl
  | cons parser rest ih => exact bind_cleared_settled fun _ => (ih _).prepend _

theorem chooseWith_settled {alternatives : List (Parser R α)}
    (settled : ∀ parser ∈ alternatives, ∀ state : State α,
      (traceWith enter scope parser state).value.Settled) (state : State α) :
    (chooseWith enter scope (.ofList alternatives) state).value.Settled := by
  induction alternatives with
  | nil => exact .of_empty rfl
  | cons parser rest ih =>
    simp only [Parsers.ofList, chooseWith, Traced.value_bind]
    split
    · exact settled parser (by simp) state
    · exact ih fun parser member => settled parser (by simp [member])

theorem traceWith_settled
    (enters : ∀ {α : Type} (address : Address) (rule : R α) (state : State α),
      (enter address rule state).value.Settled)
    {parser : Parser R α} (standard : parser.Standard) (state : State α) :
    (traceWith enter scope parser state).value.Settled := by
  induction standard with
  | literal expected => exact settled_unlessFailed (matchLiteral_settled _)
  | pattern expected => exact settled_unlessFailed (matchPattern_settled _ _)
  | run kind => exact settled_unlessFailed (matchPattern_settled _ _)
  | sequence _ _ => exact settled_unlessFailed fun _ => sequenceWith_settled _ _
  | choice _ ih => exact settled_unlessFailed fun _ => chooseWith_settled ih state
  | many _ _ => exact settled_unlessFailed fun _ => repeatFrom_settled _ _ _
  | many1 _ _ =>
    exact settled_unlessFailed fun _ => (repeatFrom_settled _ (stepBound state) _).requireItems _
  | sepBy _ _ _ _ => exact settled_unlessFailed fun _ => separateFrom_settled _ _ _ _
  | sepBy1 _ _ _ _ =>
    exact settled_unlessFailed fun _ =>
      (separateFrom_settled _ _ (stepBound state) _).requireItems _
  | between _ _ _ _ _ _ =>
    refine settled_unlessFailed fun _ => bind_cleared_settled fun _ => ?_
    refine bind_cleared_settled fun _ => bind_cleared_settled fun closed => ?_
    exact .of_running closed
  | lazy cell limit rule =>
    refine settled_unlessFailed fun _ => ?_
    split
    · exact .of_empty rfl
    · exact enters (cell :: scope) rule _
  | named _ _ ih => exact ih state
  | map f _ _ =>
    simp only [traceWith, value_application]
    exact bind_cleared_settled fun running => .of_running running
  | chain _ _ _ second =>
    simp only [traceWith, value_application]
    exact bind_cleared_settled fun _ => second _ _
  | errorMap message _ ih =>
    have inner := ih state
    simp only [traceWith, value_application, Traced.value_bind]
    split
    · exact inner
    · exact .of_empty rfl

theorem traceLevels_settled {grammar : Grammar R} (rules : grammar.Standard) (levels : Nat)
    (scope : Address) {parser : Parser R α} (standard : parser.Standard) (state : State α) :
    (traceLevels grammar levels scope parser state).value.Settled := by
  induction levels generalizing α scope with
  | zero => exact .of_empty rfl
  | succ levels ih =>
    rw [traceLevels_succ]
    refine traceWith_settled ?_ standard state
    intro α address rule state
    exact ih address (rules α rule) state

end Parser

end Descent
