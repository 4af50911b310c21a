import Descent.Proofs.Consistency
import Descent.Proofs.Turns

set_option autoImplicit false

/-!
Repetition is greedy.

What a many comes to is settled by one application of its body (`Greedy`): it is left where the
body fails, it ends where the body stays, and it goes on where the body moves. So it only ever
fails because the nesting is too deep, and where it ends its body has nothing more to give. The
form that wants an item differs from it at one place alone.
-/

namespace Descent

namespace State

variable {α β : Type}

theorem error_eq_none {state : State α} (running : state.failed = false) : state.error = none := by
  simpa [State.failed] using running

/-- Nothing but the result has changed if the position is the same. -/
theorem Advances.cleared_eq {before after : State α} (forward : before.Advances after)
    (running : before.failed = false) (success : after.failed = false)
    (stays : after.position = before.position) : (after.cleared : State β) = before.cleared := by
  have cursor : after.cursor = before.cursor := Text.Cursor.ext forward.text_eq stays
  have error : after.error = before.error := by rw [error_eq_none running, error_eq_none success]
  rw [State.cleared, State.cleared, State.withResult, State.withResult, cursor, error, forward.2]

theorem Settled.cleared_eq {state : State α} (settled : state.Settled)
    (failed : state.failed = true) : state.cleared = state := by
  rw [State.cleared, State.withResult, ← settled failed]

theorem cleared_prepend (item : Output α) (state : State α) :
    ((state.prepend item).cleared : State β) = state.cleared := by
  unfold State.prepend
  split
  · rfl
  · split <;> rfl

end State

/-- Where a loop over steps that move forward ends, all items but one have consumed something, and
the step has nothing more to give. -/
theorem Turns.leaves_nothing {α : Type} {step : State α → State α} {starts : List (State α)}
    {state after : State α} (forward : ∀ state : State α, state.Advances (step state))
    (unread : ∀ state : State α, step state.cleared = step state)
    (turns : Turns (Turn.ofStep step) starts state after) (running : state.failed = false)
    (success : after.failed = false) :
    (∃ items, after.result = .list items ∧
        state.position + items.length ≤ after.position + 1) ∧
      ((step after).Rejected ∨
        (step after).failed = false ∧ (step after).position = after.position) := by
  induction turns with
  | @last state after ended =>
    rcases (step state).outcome_cases with found | rejected | fatal
    · rw [Turn.ofStep_of_success found] at ended
      split at ended
      next stays =>
        cases ended
        have here : ((step state).cleared : State α) = state.cleared :=
          (forward state).cleared_eq running found stays
        have same : step ((step state).withResult (.list [(step state).result])) = step state := by
          rw [← unread]
          exact (congrArg step here).trans (unread state)
        refine ⟨⟨[_], rfl, Nat.succ_le_succ (forward state).position_le⟩, .inr ?_⟩
        rw [same]
        exact ⟨found, rfl⟩
      · cases ended
    · cases (Turn.ofStep_of_rejected rejected).symm.trans ended
      refine ⟨⟨[], rfl, Nat.le_succ _⟩, .inl ?_⟩
      rw [← unread] at rejected ⊢
      exact rejected
    · cases (Turn.ofStep_of_fatal fatal).symm.trans ended
      exact absurd success (State.not_running_of_failedFatally fatal)
  | @more state _ after item _ goesOn _ ih =>
    obtain ⟨found, moved, _, rfl⟩ := Turn.ofStep_more goesOn
    rw [State.failed_prepend] at success
    obtain ⟨⟨items, result, few⟩, ends⟩ := ih found success
    refine ⟨⟨item :: items, ?_, ?_⟩, ?_⟩
    · rw [State.prepend, if_neg (by simp [success]), result]
      rfl
    · have further : state.position < (step state).position :=
        Nat.lt_of_le_of_ne (forward state).position_le moved.symm
      have few : (step state).position + items.length ≤ after.position + 1 := few
      rw [State.position_prepend, List.length_cons]
      omega
    · rwa [← unread, State.cleared_prepend, unread, State.position_prepend]

namespace Parser

variable {R : Type → Type} {α : Type}

/-- A loop repeats a step from a state on, for as long as it moves. -/
structure Greedy (step loop : State α → State α) (state : State α) : Prop where
  nothing : (step state).Rejected → loop state = state.withResult (.list [])
  fatal : (step state).failedFatally = true → loop state = step state
  stays : (step state).failed = false → (step state).position = state.position →
    loop state = (step state).withResult (.list [(step state).result])
  moves : (step state).failed = false → (step state).position ≠ state.position →
    state.position < (step state).position ∧
      loop state = (loop (step state)).prepend (step state).result
  /-- It fails in one way alone. -/
  fails : (loop state).failed = true → (loop state).failedFatally = true
  /-- All items but one have consumed something. -/
  items : (loop state).failed = false → ∃ items, (loop state).result = .list items ∧
    state.position + items.length ≤ (loop state).position + 1
  /-- The step has nothing more to give. -/
  exhausted : (loop state).failed = false → (step (loop state)).Rejected ∨
    (step (loop state)).failed = false ∧ (step (loop state)).position = (loop state).position

theorem Gathered.of_cleared {before after : State α} (gathered : Gathered before.cleared after) :
    Gathered before after := by
  cases gathered with
  | stopped fatal => exact .stopped fatal
  | nothing => exact .nothing
  | something running result => exact .something running result

theorem Gathered.exists_items {before after : State α} (gathered : Gathered before after)
    (success : after.failed = false) : ∃ items, after.result = .list items := by
  cases gathered with
  | stopped fatal => exact absurd success (State.not_running_of_failedFatally fatal)
  | nothing => exact ⟨[], rfl⟩
  | something _ result => exact ⟨_, result⟩

/-- A list that is gathered fails in one way alone. -/
theorem Gathered.failedFatally {before after : State α} (gathered : Gathered before after)
    (running : before.failed = false) (failed : after.failed = true) :
    after.failedFatally = true := by
  cases gathered with
  | stopped fatal => exact fatal
  | nothing => exact absurd (failed.symm.trans running) (by simp)
  | something success => exact absurd (failed.symm.trans success) (by simp)

/-- Where items are wanted and there are none, the failure stands where the list would have
begun. -/
theorem Gathered.requireItems_eq {before after : State α} (gathered : Gathered before after)
    (raise : Nat → Failure) :
    after.requireItems raise =
      if !after.failed && after.result.isEmpty then before.withError (raise before.position)
      else after := by
  cases gathered with
  | stopped fatal => simp [State.requireItems, State.failed_of_failedFatally fatal]
  | nothing => rfl
  | something running result => simp [State.requireItems, result, Output.isEmpty]

theorem apply_many1 (grammar : Grammar R) (body : Parser R α) {state : State α}
    (running : state.failed = false) :
    (Parser.many1 body).apply grammar state =
      ((Parser.many body).apply grammar state).requireItems .emptyRepetition := by
  rw [apply_many grammar body running]
  exact value_unlessFailed_of_running running _

section Standard

variable {grammar : Grammar R} {body : Parser R α} {state : State α}

theorem apply_settled (rules : grammar.Standard) (standard : body.Standard) (state : State α) :
    (body.apply grammar state).Settled :=
  traceLevels_settled rules allLevels [] standard state

theorem apply_many_gathered (grammar : Grammar R) (body : Parser R α)
    (running : state.failed = false) :
    Gathered state ((Parser.many body).apply grammar state) := by
  rw [apply_many grammar body running]
  exact (repeatFrom_gathered (body.trace grammar) (stepBound state) state.cleared
    running).of_cleared

theorem apply_many_of_rejected (rules : grammar.Standard) (standard : body.Standard)
    (running : state.failed = false) (rejected : (body.apply grammar state).Rejected) :
    (Parser.many body).apply grammar state = state.withResult (.list []) := by
  rw [apply_many_eq rules standard running, Turn.ofStep_of_rejected rejected, Turn.thenLoop]

theorem apply_many_of_fatal (rules : grammar.Standard) (standard : body.Standard)
    (running : state.failed = false) (fatal : (body.apply grammar state).failedFatally = true) :
    (Parser.many body).apply grammar state = body.apply grammar state := by
  have failed := State.failed_of_failedFatally fatal
  rw [apply_many_eq rules standard running, Turn.ofStep_of_fatal fatal, Turn.thenLoop,
    (apply_settled rules standard state).cleared_eq failed]

theorem apply_many_of_moved (rules : grammar.Standard) (standard : body.Standard)
    (running : state.failed = false) (found : (body.apply grammar state).failed = false)
    (moved : (body.apply grammar state).position ≠ state.position) :
    (Parser.many body).apply grammar state =
      ((Parser.many body).apply grammar (body.apply grammar state)).prepend
        (body.apply grammar state).result := by
  rw [apply_many_eq rules standard running, Turn.ofStep_of_success found, if_neg moved,
    Turn.thenLoop, apply_cleared grammar (.many standard)]

end Standard

/-- Repetition is greedy, and the form that wants an item is the same but for a failure on the spot
where there is none. -/
theorem many_is_greedy {grammar : Grammar R} (rules : grammar.Standard) {body : Parser R α}
    (standard : body.Standard) {state : State α} (running : state.failed = false) :
    Greedy (body.apply grammar) ((Parser.many body).apply grammar) state ∧
      (Parser.many1 body).apply grammar state =
        let all := (Parser.many body).apply grammar state
        if !all.failed && all.result.isEmpty then
          state.withError (.emptyRepetition state.position)
        else all := by
  have forward (state : State α) := apply_advances rules standard state
  have gathered := apply_many_gathered grammar body running
  obtain ⟨starts, turns, _⟩ := many_turns rules standard running
  have leaves := turns.leaves_nothing forward (apply_cleared grammar standard) running
  constructor
  · constructor
    case nothing => exact apply_many_of_rejected rules standard running
    case fatal => exact apply_many_of_fatal rules standard running
    case stays =>
      intro found stays
      rw [apply_many_eq rules standard running, Turn.ofStep_of_success found, if_pos stays,
        Turn.thenLoop]
    case moves =>
      intro found moved
      exact ⟨Nat.lt_of_le_of_ne (forward state).position_le moved.symm,
        apply_many_of_moved rules standard running found moved⟩
    case fails => exact gathered.failedFatally running
    case items => exact fun success => (leaves success).1
    case exhausted => exact fun success => (leaves success).2
  · rw [apply_many1 grammar body running]
    exact gathered.requireItems_eq .emptyRepetition

end Parser

namespace Brackets

/-- A word with a number after it. -/
def numberedWord : Parser Rule String := .sequence (.ofList [.letters, .digits])

theorem numberedWord_standard : numberedWord.Standard := by
  refine .sequence ?_
  simpa using ⟨.run .letters, .run .digits⟩

/-- One numbered word is found, and the word after it is left because its number is missing. -/
theorem numberedWord_repeated_once :
    (Parser.many numberedWord).apply grammar (.start "ab1cd") =
      ⟨.place "ab1cd" 3, .list [.list [.value "ab", .value "1"]], none, 0⟩ := by
  let start : State String := .start "ab1cd"
  let first := numberedWord.apply grammar start
  have rules : grammar.Standard := grammarWithin_standard defaultLimit
  have running : start.failed = false := rfl
  have found : first.failed = false := by decide +kernel
  have moved : first.position ≠ start.position := by decide +kernel
  have missing : (numberedWord.apply grammar first).Rejected := by
    constructor
    · decide +kernel
    · decide +kernel
  obtain ⟨greedy, _⟩ := Parser.many_is_greedy rules numberedWord_standard running
  obtain ⟨ended, _⟩ := Parser.many_is_greedy rules numberedWord_standard found
  rw [(greedy.moves found moved).2, ended.nothing missing]
  decide +kernel

end Brackets

end Descent
