import Descent.Proofs.Incoming
import Descent.Proofs.Reading

set_option autoImplicit false

/-!
Loops, turn by turn.

Both loops of the parsers take turns: a turn is the last one, or it keeps an item and tells where
the next one starts. `Turns` says how a loop ends, with the states from which its turns start and
without any bound to stop at; it determines what a bounded loop comes to (`Turns.eq_of_bound`). If
less is ahead of each turn than of the one before it, then the loop ends (`exists_turns`), so that
a loop over standard parsers is its first turn and then itself again (`apply_many_eq`,
`apply_sepBy_eq`).
-/

namespace Descent

/-- What comes of one turn of a loop. -/
inductive Turn (α : Type) where
  /-- The loop ends in a state. -/
  | last (after : State α)
  /-- An item is kept, and the next turn starts from a state. -/
  | more (item : Output α) (next : State α)

namespace Turn

variable {α σ : Type}

/-- What the loop comes to, if this is what it comes to from the next turn on. -/
def thenLoop (loop : State α → State α) : Turn α → State α
  | .last after => after
  | .more item next => (loop next).prepend item

/-- A turn that is one step. -/
def ofStep (step : State α → State α) (state : State α) : Turn α :=
  let next := step state
  if next.failedFatally then .last next.cleared
  else if next.failed then .last (state.withResult (.list []))
  else if next.position = state.position then .last (next.withResult (.list [next.result]))
  else .more next.result next.cleared

/-- A turn that is a round of a value and a separator. -/
def ofRound (separator : State σ → State σ) (value : State α → State α) (state : State α) :
    Turn α :=
  let next := value state
  if next.failedFatally then .last next.cleared
  else if next.failed then .last (state.withResult (.list []))
  else
    let following := separator next.cleared
    if following.failedFatally then .last following.cleared
    else if following.failed then .last (next.withResult (.list [next.result]))
    else if following.position = state.position then
      .last (following.withResult (.list [next.result]))
    else .more next.result following.cleared

section Step

variable {step : State α → State α} {state : State α}

theorem ofStep_of_fatal (fatal : (step state).failedFatally = true) :
    ofStep step state = .last (step state).cleared :=
  if_pos fatal

theorem ofStep_of_rejected (rejected : (step state).Rejected) :
    ofStep step state = .last (state.withResult (.list [])) := by
  simp [ofStep, rejected.1, rejected.2]

theorem ofStep_of_success (success : (step state).failed = false) :
    ofStep step state =
      if (step state).position = state.position then
        .last ((step state).withResult (.list [(step state).result]))
      else .more (step state).result (step state).cleared := by
  simp [ofStep, success, State.failedFatally_of_running success]

theorem ofStep_more {item : Output α} {next : State α}
    (more : ofStep step state = .more item next) :
    (step state).failed = false ∧ (step state).position ≠ state.position ∧
      item = (step state).result ∧ next = (step state).cleared := by
  rcases (step state).outcome_cases with success | rejected | fatal
  · rw [ofStep_of_success success] at more
    split at more
    · cases more
    next moved =>
      cases more
      exact ⟨success, moved, rfl, rfl⟩
  · cases (ofStep_of_rejected rejected).symm.trans more
  · cases (ofStep_of_fatal fatal).symm.trans more

theorem ofStep_cleared (unread : ∀ state : State α, step state.cleared = step state) :
    ofStep step state.cleared = ofStep step state := by
  unfold ofStep
  rw [unread]
  rfl

end Step

section Round

variable {separator : State σ → State σ} {value : State α → State α} {state : State α}

theorem ofRound_of_fatal (fatal : (value state).failedFatally = true) :
    ofRound separator value state = .last (value state).cleared :=
  if_pos fatal

theorem ofRound_of_rejected (rejected : (value state).Rejected) :
    ofRound separator value state = .last (state.withResult (.list [])) := by
  simp [ofRound, rejected.1, rejected.2]

theorem ofRound_of_fatal_separator (success : (value state).failed = false)
    (fatal : (separator (value state).cleared).failedFatally = true) :
    ofRound separator value state = .last (separator (value state).cleared).cleared := by
  simp [ofRound, success, State.failedFatally_of_running success, fatal]

theorem ofRound_of_no_separator (success : (value state).failed = false)
    (rejected : (separator (value state).cleared).Rejected) :
    ofRound separator value state =
      .last ((value state).withResult (.list [(value state).result])) := by
  simp [ofRound, success, State.failedFatally_of_running success, rejected.1, rejected.2]

theorem ofRound_of_separator (success : (value state).failed = false)
    (separated : (separator (value state).cleared).failed = false) :
    ofRound separator value state =
      if (separator (value state).cleared).position = state.position then
        .last ((separator (value state).cleared).withResult (.list [(value state).result]))
      else .more (value state).result (separator (value state).cleared).cleared := by
  simp [ofRound, success, State.failedFatally_of_running success, separated,
    State.failedFatally_of_running separated]

theorem ofRound_more {item : Output α} {next : State α}
    (more : ofRound separator value state = .more item next) :
    (value state).failed = false ∧ (separator (value state).cleared).failed = false ∧
      (separator (value state).cleared).position ≠ state.position ∧
      item = (value state).result ∧ next = (separator (value state).cleared).cleared := by
  rcases (value state).outcome_cases with success | rejected | fatal
  · rcases (separator (value state).cleared).outcome_cases with separated | rejected | fatal
    · rw [ofRound_of_separator success separated] at more
      split at more
      · cases more
      next moved =>
        cases more
        exact ⟨success, separated, moved, rfl, rfl⟩
    · cases (ofRound_of_no_separator success rejected).symm.trans more
    · cases (ofRound_of_fatal_separator success fatal).symm.trans more
  · cases (ofRound_of_rejected rejected).symm.trans more
  · cases (ofRound_of_fatal fatal).symm.trans more

theorem ofRound_cleared (unread : ∀ state : State α, value state.cleared = value state) :
    ofRound separator value state.cleared = ofRound separator value state := by
  unfold ofRound
  rw [unread]
  rfl

end Round

end Turn

/-- A loop takes its turns from the given states, one after the other, and comes to a state. -/
inductive Turns {α : Type} (turn : State α → Turn α) :
    List (State α) → State α → State α → Prop where
  | last {state after : State α} : turn state = .last after → Turns turn [state] state after
  | more {state next after : State α} {item : Output α} {starts : List (State α)} :
      turn state = .more item next → Turns turn starts next after →
      Turns turn (state :: starts) state (after.prepend item)

namespace Turns

variable {α σ : Type} {turn : State α → Turn α} {starts : List (State α)} {state after : State α}

/-- A loop takes its turns in one way alone. -/
theorem unique (turns : Turns turn starts state after) {starts' : List (State α)} {after' : State α}
    (turns' : Turns turn starts' state after') : starts = starts' ∧ after = after' := by
  induction turns generalizing starts' after' with
  | last ended =>
    cases turns' with
    | last ended' =>
      cases ended.symm.trans ended'
      exact ⟨rfl, rfl⟩
    | more goesOn _ => cases ended.symm.trans goesOn
  | more goesOn _ ih =>
    cases turns' with
    | last ended => cases goesOn.symm.trans ended
    | more goesOn' turns' =>
      cases goesOn.symm.trans goesOn'
      obtain ⟨rfl, rfl⟩ := ih turns'
      exact ⟨rfl, rfl⟩

/-- What a bounded loop comes to, if the bound is not less than the number of turns. -/
theorem eq_of_bound (turns : Turns turn starts state after) (loop : Nat → State α → State α)
    (unfolds : ∀ bound state, loop (bound + 1) state = (turn state).thenLoop (loop bound))
    {bound : Nat} (enough : starts.length ≤ bound) : loop bound state = after := by
  induction turns generalizing bound with
  | last ended =>
    obtain ⟨bound, rfl⟩ := Nat.exists_eq_add_one.mpr enough
    rw [unfolds, ended]
    rfl
  | more goesOn _ ih =>
    obtain ⟨bound, rfl⟩ := Nat.exists_eq_add_one.mpr (Nat.zero_lt_of_lt enough)
    rw [unfolds, goesOn, Turn.thenLoop, ih (Nat.le_of_succ_le_succ enough)]

/-- A loop that ends from the next turn on is its first turn and then itself again. -/
theorem unfold (turns : Turns turn starts state after) {loop : State α → State α}
    (ends : ∀ item next, turn state = .more item next →
      ∃ starts, Turns turn starts next (loop next)) :
    after = (turn state).thenLoop loop := by
  cases turns with
  | last ended => rw [ended, Turn.thenLoop]
  | more goesOn turns =>
    obtain ⟨_, turns'⟩ := ends _ _ goesOn
    rw [goesOn, Turn.thenLoop, (turns.unique turns').2]

end Turns

/-- A loop ends if each turn but the last is followed by one with less ahead of it. -/
theorem exists_turns {α : Type} {turn : State α → Turn α} (Stays : State α → Prop)
    (ahead : State α → Nat)
    (nearer : ∀ state item next, Stays state → turn state = .more item next →
      Stays next ∧ ahead next < ahead state)
    {state : State α} (stays : Stays state) :
    ∃ starts after, Turns turn starts state after ∧ starts.length ≤ ahead state + 1 := by
  induction size : ahead state using Nat.strongRecOn generalizing state with
  | _ size ih =>
    subst size
    cases ended : turn state with
    | last after => exact ⟨[state], after, .last ended, Nat.le_add_left _ _⟩
    | more item next =>
      obtain ⟨stays, less⟩ := nearer state item next stays ended
      obtain ⟨starts, after, turns, few⟩ := ih _ less stays rfl
      exact ⟨_, _, .more ended turns, by rw [List.length_cons]; omega⟩

namespace Parser

variable {R : Type → Type} {α σ : Type}

theorem repeatFrom_succ (step : State α → Traced (State α)) (bound : Nat) (state : State α) :
    (repeatFrom step (bound + 1) state).value =
      (Turn.ofStep (fun state => (step state).value) state).thenLoop
        fun next => (repeatFrom step bound next).value := by
  simp only [repeatFrom, Turn.ofStep, Traced.value_bind]
  split
  · rfl
  · split
    · rfl
    · split <;> rfl

theorem separateFrom_succ (separator : State σ → Traced (State σ))
    (value : State α → Traced (State α)) (bound : Nat) (state : State α) :
    (separateFrom separator value (bound + 1) state).value =
      (Turn.ofRound (fun state => (separator state).value) (fun state => (value state).value)
        state).thenLoop fun next => (separateFrom separator value bound next).value := by
  simp only [separateFrom, Turn.ofRound, Traced.value_bind]
  split
  · rfl
  · split
    · rfl
    · simp only [Traced.value_bind]
      split
      · rfl
      · split
        · rfl
        · split <;> rfl

variable {grammar : Grammar R} {separator : Parser R σ} {body value : Parser R α}
  {state after : State α} {starts : List (State α)}

theorem apply_many (grammar : Grammar R) (body : Parser R α) (running : state.failed = false) :
    (Parser.many body).apply grammar state =
      (repeatFrom (body.trace grammar) (stepBound state) state.cleared).value :=
  value_unlessFailed_of_running running _

theorem apply_sepBy (grammar : Grammar R) (separator : Parser R σ) (value : Parser R α)
    (running : state.failed = false) :
    (Parser.sepBy separator value).apply grammar state =
      (separateFrom (separator.trace grammar) (value.trace grammar) (stepBound state)
        state.cleared).value :=
  value_unlessFailed_of_running running _

/-- A loop comes to the same with any bound, if it ends within both. -/
theorem apply_many_of_turns (running : state.failed = false)
    (turns : Turns (Turn.ofStep (body.apply grammar)) starts state.cleared after)
    (enough : starts.length ≤ stepBound state) :
    (Parser.many body).apply grammar state = after := by
  rw [apply_many grammar body running]
  exact turns.eq_of_bound (fun bound state => (repeatFrom (body.trace grammar) bound state).value)
    (repeatFrom_succ _) enough

theorem apply_sepBy_of_turns (running : state.failed = false)
    (turns : Turns (Turn.ofRound (separator.apply grammar) (value.apply grammar)) starts
      state.cleared after)
    (enough : starts.length ≤ stepBound state) :
    (Parser.sepBy separator value).apply grammar state = after := by
  rw [apply_sepBy grammar separator value running]
  exact turns.eq_of_bound
    (fun bound state =>
      (separateFrom (separator.trace grammar) (value.trace grammar) bound state).value)
    (separateFrom_succ _ _) enough

/-! ## Standard parsers -/

theorem apply_cleared (grammar : Grammar R) {parser : Parser R α} (standard : parser.Standard)
    (state : State α) : parser.apply grammar state.cleared = parser.apply grammar state :=
  congrArg Traced.value (traceWith_cleared standard state)

/-- A move forward leaves fewer bytes. -/
theorem byteLength_rest_lt {β : Type} {before : State α} {after : State β}
    (forward : before.Advances after) (moved : after.position ≠ before.position) :
    Text.byteLength after.rest < Text.byteLength before.rest := by
  have kept := forward.position_add
  have further := forward.position_le
  omega

/-- A loop over a standard parser ends within one turn more than bytes remain. -/
theorem many_turns (rules : grammar.Standard) (standard : body.Standard)
    (running : state.failed = false) :
    ∃ starts, Turns (Turn.ofStep (body.apply grammar)) starts state.cleared
        ((Parser.many body).apply grammar state) ∧
      starts.length ≤ Text.byteLength state.rest + 1 := by
  have nearer (state : State α) (item : Output α) (next : State α) (_ : state.failed = false)
      (goesOn : Turn.ofStep (body.apply grammar) state = .more item next) :
      next.failed = false ∧ Text.byteLength next.rest < Text.byteLength state.rest := by
    obtain ⟨success, moved, _, rfl⟩ := Turn.ofStep_more goesOn
    exact ⟨success, byteLength_rest_lt (apply_advances rules standard state) moved⟩
  have start : (state.cleared : State α).failed = false := running
  obtain ⟨starts, after, turns, few⟩ := exists_turns _ _ nearer start
  have room := byteLength_rest_lt_stepBound state
  rw [apply_many_of_turns running turns (Nat.le_trans few room)]
  exact ⟨starts, turns, few⟩

theorem sepBy_turns (rules : grammar.Standard) (separatorStandard : separator.Standard)
    (valueStandard : value.Standard) (running : state.failed = false) :
    ∃ starts, Turns (Turn.ofRound (separator.apply grammar) (value.apply grammar)) starts
        state.cleared ((Parser.sepBy separator value).apply grammar state) ∧
      starts.length ≤ Text.byteLength state.rest + 1 := by
  have nearer (state : State α) (item : Output α) (next : State α) (_ : state.failed = false)
      (goesOn : Turn.ofRound (separator.apply grammar) (value.apply grammar) state =
        .more item next) :
      next.failed = false ∧ Text.byteLength next.rest < Text.byteLength state.rest := by
    obtain ⟨_, separated, moved, _, rfl⟩ := Turn.ofRound_more goesOn
    have valueForward := apply_advances rules valueStandard state
    have forward := valueForward.cleared.trans (apply_advances rules separatorStandard _)
    exact ⟨separated, byteLength_rest_lt forward moved⟩
  have start : (state.cleared : State α).failed = false := running
  obtain ⟨starts, after, turns, few⟩ := exists_turns _ _ nearer start
  have room := byteLength_rest_lt_stepBound state
  rw [apply_sepBy_of_turns running turns (Nat.le_trans few room)]
  exact ⟨starts, turns, few⟩

/-- A loop is its first turn and then itself again. -/
theorem apply_many_eq (rules : grammar.Standard) (standard : body.Standard)
    (running : state.failed = false) :
    (Parser.many body).apply grammar state =
      (Turn.ofStep (body.apply grammar) state).thenLoop ((Parser.many body).apply grammar) := by
  rw [← Turn.ofStep_cleared (apply_cleared grammar standard)]
  obtain ⟨starts, turns, _⟩ := many_turns rules standard running
  refine turns.unfold fun item next goesOn => ?_
  obtain ⟨success, _, _, rfl⟩ := Turn.ofStep_more goesOn
  obtain ⟨starts, turns, _⟩ := many_turns rules standard success
  exact ⟨starts, turns⟩

theorem apply_sepBy_eq (rules : grammar.Standard) (separatorStandard : separator.Standard)
    (valueStandard : value.Standard) (running : state.failed = false) :
    (Parser.sepBy separator value).apply grammar state =
      (Turn.ofRound (separator.apply grammar) (value.apply grammar) state).thenLoop
        ((Parser.sepBy separator value).apply grammar) := by
  rw [← Turn.ofRound_cleared (apply_cleared grammar valueStandard)]
  obtain ⟨starts, turns, _⟩ := sepBy_turns rules separatorStandard valueStandard running
  refine turns.unfold fun item next goesOn => ?_
  obtain ⟨_, separated, _, _, rfl⟩ := Turn.ofRound_more goesOn
  have going : ((separator.apply grammar (value.apply grammar state.cleared).cleared).cleared :
      State α).failed = false := separated
  obtain ⟨starts, turns, _⟩ := sepBy_turns rules separatorStandard valueStandard going
  exact ⟨starts, turns⟩

end Parser

end Descent
