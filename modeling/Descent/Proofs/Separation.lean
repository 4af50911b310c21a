import Descent.Proofs.Repetition

set_option autoImplicit false

/-!
Separated lists in terms of the other combinators.

A separated list is a value, then as many pairs of a separator and a value as there are, then one
separator if there is one more; or it is nothing. `Parser.spelledOut` says so with sequences,
choices and a many. Both come to the same state wherever a value consumes something, because the
rounds of the one and the pairs of the other are cut at different places of one row: `afterValue` is
what either comes to once a value is read (`apply_sepBy_of_value`).
-/

namespace Descent

namespace Output

variable {α : Type}

/-- The second item of a list. -/
def second (output : Output α) : Output α := (output.nth? 1).getD .empty

/-- The first item of a list before the items of the second. -/
def joined : Output α → Output α
  | .list (first :: .list others :: _) => .list (first :: others)
  | output => output

end Output

namespace State

variable {α β : Type}

/-- What is done after a part that succeeds. -/
def followedBy (state : State α) (next : State α → State β) : State β :=
  if state.failed then state.cleared else next state

theorem followedBy_of_failed {state : State α} (failed : state.failed = true)
    (next : State α → State β) : state.followedBy next = state.cleared :=
  if_pos failed

theorem followedBy_of_running {state : State α} (running : state.failed = false)
    (next : State α → State β) : state.followedBy next = next state :=
  if_neg (by simp [running])

theorem followedBy_congr {state : State α} {next next' : State α → State β}
    (same : state.failed = false → next state = next' state) :
    state.followedBy next = state.followedBy next' := by
  cases failed : state.failed with
  | true => rw [followedBy_of_failed failed, followedBy_of_failed failed]
  | false => rw [followedBy_of_running failed, followedBy_of_running failed, same failed]

theorem prepend_followedBy (state : State α) (next : State α → State β) (item : Output β) :
    (state.followedBy next).prepend item =
      state.followedBy fun after => (next after).prepend item := by
  cases failed : state.failed with
  | true =>
    rw [followedBy_of_failed failed, followedBy_of_failed failed]
    exact prepend_of_failed item failed
  | false => rw [followedBy_of_running failed, followedBy_of_running failed]

@[simp] theorem failed_cleared (state : State α) :
    (state.cleared : State β).failed = state.failed := rfl

@[simp] theorem cleared_cleared {γ : Type} (state : State α) :
    ((state.cleared : State β).cleared : State γ) = state.cleared := rfl

@[simp] theorem cleared_withResult {γ : Type} (state : State α) (output : Output β) :
    ((state.withResult output).cleared : State γ) = state.cleared := rfl

@[simp] theorem failed_withResult (state : State α) (output : Output β) :
    (state.withResult output).failed = state.failed := rfl

@[simp] theorem withResult_withResult {γ : Type} (state : State α) (output : Output β)
    (output' : Output γ) :
    (state.withResult output).withResult output' = state.withResult output' := rfl

@[simp] theorem withResult_cleared {γ : Type} (state : State α) (output : Output γ) :
    (state.cleared : State β).withResult output = state.withResult output := rfl

@[simp] theorem withResult_result (state : State α) : state.withResult state.result = state := rfl

theorem prepend_of_list {state : State α} {items : List (Output α)} (running : state.failed = false)
    (result : state.result = .list items) (item : Output α) :
    state.prepend item = state.withResult (.list (item :: items)) := by
  rw [prepend, if_neg (by simp [running]), result]

end State

namespace Parser

variable {R : Type → Type} {α : Type}

/-- A parser, or else nothing. -/
def orNothing (parser : Parser R α) : Parser R α :=
  .choice (.ofList [parser, .sequence (.ofList [])])

/-- A separator and a value, of which the value is kept. -/
def separatedValue (separator value : Parser R α) : Parser R α :=
  .map (.sequence (.ofList [separator, value])) .second

/-- At least one value with separators between values, and perhaps a separator after the last. -/
def spelledRow (separator value : Parser R α) : Parser R α :=
  .map (.sequence (.ofList
    [value, .many (separatedValue separator value), orNothing separator])) .joined

/-- A separated list from the other combinators. -/
def spelledOut (separator value : Parser R α) : Parser R α :=
  orNothing (spelledRow separator value)

variable {grammar : Grammar R} {separator value parser : Parser R α} {state : State α}

theorem orNothing_standard (standard : parser.Standard) : (orNothing parser).Standard := by
  refine .choice ?_
  simpa using ⟨standard, .sequence (by simp)⟩

theorem separatedValue_standard (separatorStandard : separator.Standard)
    (valueStandard : value.Standard) : (separatedValue separator value).Standard := by
  refine .map _ (.sequence ?_)
  simpa using ⟨separatorStandard, valueStandard⟩

/-! ## Parts by themselves -/

theorem value_bind_cleared {β : Type} (first : Traced (State α))
    (next : State α → Traced (State β)) :
    (do
      let after ← first
      if after.failed then return after.cleared else next after).value =
      first.value.followedBy fun after => (next after).value := by
  rw [Traced.value_bind, State.followedBy]
  cases first.value.failed <;> rfl

theorem apply_map {β : Type} (grammar : Grammar R) (parser : Parser R α) (f : Output α → Output β)
    (state : State β) :
    (Parser.map parser f).apply grammar state =
      (parser.apply grammar state.cleared).followedBy fun after =>
        after.withResult (f after.result) :=
  value_bind_cleared (parser.trace grammar state.cleared) fun after => do
    Traced.emit .called
    return after.withResult (f after.result)

/-- What several parsers come to, one after the other. -/
def applyAll (grammar : Grammar R) : List (Parser R α) → State α → State α
  | [], state => state.withResult (.list [])
  | parser :: rest, state =>
    (parser.apply grammar state).followedBy fun after =>
      (applyAll grammar rest after.cleared).prepend after.result

theorem apply_sequence (grammar : Grammar R) (parsers : List (Parser R α)) (state : State α)
    (running : state.failed = false) :
    (Parser.sequence (.ofList parsers)).apply grammar state =
      applyAll grammar parsers state.cleared := by
  have applied : (Parser.sequence (.ofList parsers)).apply grammar state =
      (sequenceWith (enterBody grammar (allLevels - 1)) [] (.ofList parsers) state.cleared).value :=
    value_unlessFailed_of_running running _
  rw [applied]
  generalize (state.cleared : State α) = start
  clear running applied
  induction parsers generalizing start with
  | nil => rfl
  | cons parser rest ih =>
    rw [Parsers.ofList, sequenceWith, value_bind_cleared, applyAll]
    simp only [← ih]
    rfl

theorem apply_orNothing_of_kept (running : state.failed = false)
    (kept : ¬(parser.apply grammar state).Rejected) :
    (orNothing parser).apply grammar state = parser.apply grammar state :=
  (value_unlessFailed_of_running running _).trans (choose_takes kept)

theorem apply_orNothing_of_rejected (running : state.failed = false)
    (rejected : (parser.apply grammar state).Rejected) :
    (orNothing parser).apply grammar state = state.withResult (.list []) := by
  have nothing := apply_sequence grammar [] state running
  have kept : ¬((Parser.sequence (.ofList [])).apply grammar state).Rejected := by
    rw [nothing]
    exact fun rejected => rejected.not_running running
  calc (orNothing parser).apply grammar state
    _ = (chooseWith (enterBody grammar (allLevels - 1)) []
          (.ofList [parser, .sequence (.ofList [])]) state).value :=
      value_unlessFailed_of_running running _
    _ = (chooseWith (enterBody grammar (allLevels - 1)) []
          (.ofList [.sequence (.ofList [])]) state).value := choose_skips rejected
    _ = (Parser.sequence (.ofList [])).apply grammar state := choose_takes kept
    _ = state.withResult (.list []) := nothing

/-! ## Rows -/

/-- What comes after a value: pairs of a separator and a value, and perhaps one more separator. -/
def afterValue (grammar : Grammar R) (separator value : Parser R α) (state : State α) : State α :=
  ((Parser.many (separatedValue separator value)).apply grammar state).followedBy fun pairs =>
    ((orNothing separator).apply grammar pairs.cleared).followedBy fun last =>
      last.withResult pairs.result

theorem apply_spelledRow (grammar : Grammar R) (separatorStandard : separator.Standard)
    (valueStandard : value.Standard) (running : state.failed = false) :
    (spelledRow separator value).apply grammar state =
      (value.apply grammar state).followedBy fun first =>
        (afterValue grammar separator value first).prepend first.result := by
  have pairs_standard := separatedValue_standard separatorStandard valueStandard
  rw [spelledRow, apply_map, apply_sequence grammar _ state.cleared running]
  simp only [applyAll, State.cleared_cleared, apply_cleared grammar valueStandard,
    apply_cleared grammar (.many pairs_standard), afterValue]
  generalize value.apply grammar state = first
  cases found : first.failed with
  | true => simp [State.followedBy, found]
  | false =>
    have gathered := apply_many_gathered grammar (separatedValue separator value) found
    simp only [State.followedBy_of_running found]
    generalize (Parser.many (separatedValue separator value)).apply grammar first = pairs at *
    cases stopped : pairs.failed with
    | true => simp [State.followedBy, State.prepend, stopped]
    | false =>
      obtain ⟨items, result⟩ := gathered.exists_items stopped
      simp only [State.followedBy_of_running stopped]
      generalize (orNothing separator).apply grammar pairs.cleared = last
      cases ended : last.failed with
      | true => simp [State.followedBy, State.prepend, ended]
      | false => simp [State.followedBy, State.prepend, ended, result, Output.joined]

section Rows

variable (rules : grammar.Standard) (separatorStandard : separator.Standard)
  (valueStandard : value.Standard)

include rules separatorStandard valueStandard

theorem apply_separatedValue (running : state.failed = false) :
    (separatedValue separator value).apply grammar state =
      (separator.apply grammar state).followedBy (value.apply grammar) := by
  rw [separatedValue, apply_map, apply_sequence grammar _ state.cleared running]
  simp only [applyAll, State.cleared_cleared, apply_cleared grammar separatorStandard,
    apply_cleared grammar valueStandard]
  generalize separator.apply grammar state = separated
  cases parted : separated.failed with
  | true => simp [State.followedBy, parted]
  | false =>
    have settled := (apply_settled rules valueStandard separated).cleared_eq
    cases found : (value.apply grammar separated).failed with
    | true => simp [State.followedBy, State.prepend, parted, found, settled found]
    | false =>
      simp [State.followedBy, State.prepend, parted, found, Output.second, Output.nth?,
        Output.list?]

theorem afterValue_of_fatal (running : state.failed = false)
    (fatal : ((separatedValue separator value).apply grammar state).failedFatally = true) :
    afterValue grammar separator value state =
      (separatedValue separator value).apply grammar state := by
  have standard := separatedValue_standard separatorStandard valueStandard
  have failed := State.failed_of_failedFatally fatal
  rw [afterValue, apply_many_of_fatal rules standard running fatal,
    State.followedBy_of_failed failed, (apply_settled rules standard state).cleared_eq failed]

theorem afterValue_of_rejected (running : state.failed = false)
    (rejected : ((separatedValue separator value).apply grammar state).Rejected) :
    afterValue grammar separator value state =
      ((orNothing separator).apply grammar state).followedBy fun last =>
        last.withResult (.list []) := by
  have standard := separatedValue_standard separatorStandard valueStandard
  rw [afterValue, apply_many_of_rejected rules standard running rejected]
  have running : (state.withResult (.list [] : Output α)).failed = false := running
  rw [State.followedBy_of_running running]
  have unread := apply_cleared grammar (orNothing_standard separatorStandard) state
  rw [← unread]
  rfl

theorem afterValue_of_pair (running : state.failed = false)
    (found : ((separatedValue separator value).apply grammar state).failed = false)
    (moved : ((separatedValue separator value).apply grammar state).position ≠ state.position) :
    afterValue grammar separator value state =
      (afterValue grammar separator value
        ((separatedValue separator value).apply grammar state)).prepend
          ((separatedValue separator value).apply grammar state).result := by
  have standard := separatedValue_standard separatorStandard valueStandard
  have gathered := apply_many_gathered grammar (separatedValue separator value) found
  rw [afterValue, apply_many_of_moved rules standard running found moved, afterValue,
    State.prepend_followedBy]
  generalize (separatedValue separator value).apply grammar state = pair at *
  generalize (Parser.many (separatedValue separator value)).apply grammar pair = pairs at *
  cases failed : pairs.failed with
  | true =>
    rw [State.prepend_of_failed _ failed, State.followedBy_of_failed failed,
      State.followedBy_of_failed failed]
  | false =>
    obtain ⟨items, result⟩ := gathered.exists_items failed
    have running : (pairs.withResult (.list (pair.result :: items))).failed = false := failed
    rw [State.prepend_of_list failed result, State.followedBy_of_running running,
      State.followedBy_of_running failed, State.prepend_followedBy, result,
      State.cleared_withResult]
    refine State.followedBy_congr fun success => ?_
    simp [State.prepend, success]

theorem apply_sepBy_of_rejected (running : state.failed = false)
    (rejected : (value.apply grammar state).Rejected) :
    (Parser.sepBy separator value).apply grammar state = state.withResult (.list []) := by
  rw [apply_sepBy_eq rules separatorStandard valueStandard running,
    Turn.ofRound_of_rejected rejected, Turn.thenLoop]

theorem apply_sepBy_of_fatal (running : state.failed = false)
    (fatal : (value.apply grammar state).failedFatally = true) :
    (Parser.sepBy separator value).apply grammar state = value.apply grammar state := by
  have failed := State.failed_of_failedFatally fatal
  rw [apply_sepBy_eq rules separatorStandard valueStandard running, Turn.ofRound_of_fatal fatal,
    Turn.thenLoop, (apply_settled rules valueStandard state).cleared_eq failed]

theorem apply_sepBy_of_fatal_separator (running : state.failed = false)
    (found : (value.apply grammar state).failed = false)
    (fatal : (separator.apply grammar (value.apply grammar state)).failedFatally = true) :
    (Parser.sepBy separator value).apply grammar state =
      separator.apply grammar (value.apply grammar state) := by
  have unread := apply_cleared grammar separatorStandard (value.apply grammar state)
  have settled := apply_settled rules separatorStandard (value.apply grammar state)
  rw [← unread] at fatal
  rw [apply_sepBy_eq rules separatorStandard valueStandard running,
    Turn.ofRound_of_fatal_separator found fatal, Turn.thenLoop, unread]
  exact settled.cleared_eq (State.failed_of_failedFatally (unread ▸ fatal))

theorem apply_sepBy_of_no_separator (running : state.failed = false)
    (found : (value.apply grammar state).failed = false)
    (rejected : (separator.apply grammar (value.apply grammar state)).Rejected) :
    (Parser.sepBy separator value).apply grammar state =
      (value.apply grammar state).withResult (.list [(value.apply grammar state).result]) := by
  rw [← apply_cleared grammar separatorStandard] at rejected
  rw [apply_sepBy_eq rules separatorStandard valueStandard running,
    Turn.ofRound_of_no_separator found rejected, Turn.thenLoop]

theorem apply_sepBy_of_round (running : state.failed = false)
    (found : (value.apply grammar state).failed = false)
    (parted : (separator.apply grammar (value.apply grammar state)).failed = false)
    (moved : (separator.apply grammar (value.apply grammar state)).position ≠ state.position) :
    (Parser.sepBy separator value).apply grammar state =
      ((Parser.sepBy separator value).apply grammar
        (separator.apply grammar (value.apply grammar state))).prepend
          (value.apply grammar state).result := by
  have unread := apply_cleared grammar separatorStandard (value.apply grammar state)
  have standard := Standard.sepBy separatorStandard valueStandard
  rw [← unread] at parted moved
  rw [apply_sepBy_eq rules separatorStandard valueStandard running,
    Turn.ofRound_of_separator found parted, if_neg moved, Turn.thenLoop,
    apply_cleared grammar standard, unread]

/-- After a separator, the list begins anew. -/
theorem apply_sepBy_of_separator {first : State α} (running : first.failed = false)
    (parted : (separator.apply grammar first).failed = false)
    (moves : (value.apply grammar (separator.apply grammar first)).failed = false →
      (value.apply grammar (separator.apply grammar first)).position ≠ first.position)
    (again : (value.apply grammar (separator.apply grammar first)).failed = false →
      (Parser.sepBy separator value).apply grammar (separator.apply grammar first) =
        (afterValue grammar separator value
          (value.apply grammar (separator.apply grammar first))).prepend
            (value.apply grammar (separator.apply grammar first)).result) :
    (Parser.sepBy separator value).apply grammar (separator.apply grammar first) =
      afterValue grammar separator value first := by
  have pair := apply_separatedValue rules separatorStandard valueStandard running
  rw [State.followedBy_of_running parted] at pair
  rcases (value.apply grammar (separator.apply grammar first)).outcome_cases with
    found | rejected | fatal
  · rw [again found, afterValue_of_pair rules separatorStandard valueStandard running, pair]
    · rwa [pair]
    · rw [pair]
      exact moves found
  · have kept : ¬(separator.apply grammar first).Rejected :=
      fun rejected => rejected.not_running parted
    rw [apply_sepBy_of_rejected rules separatorStandard valueStandard parted rejected,
      afterValue_of_rejected rules separatorStandard valueStandard running (by rwa [pair]),
      apply_orNothing_of_kept running kept, State.followedBy_of_running parted]
  · rw [apply_sepBy_of_fatal rules separatorStandard valueStandard parted fatal,
      afterValue_of_fatal rules separatorStandard valueStandard running (by rwa [pair]), pair]

/-- A value that is read is followed by what comes after a value. -/
theorem apply_sepBy_of_value
    (consumes : ∀ state : State α, (value.apply grammar state).failed = false →
      (value.apply grammar state).position ≠ state.position)
    (running : state.failed = false) (found : (value.apply grammar state).failed = false) :
    (Parser.sepBy separator value).apply grammar state =
      (afterValue grammar separator value (value.apply grammar state)).prepend
        (value.apply grammar state).result := by
  -- The induction is on the bytes that remain, of which each value consumes some.
  induction size : Text.byteLength state.rest using Nat.strongRecOn generalizing state with
  | _ size ih =>
    subst size
    have pair := apply_separatedValue rules separatorStandard valueStandard found
    rcases (separator.apply grammar (value.apply grammar state)).outcome_cases with
      parted | rejected | fatal
    · have valueForward := apply_advances rules valueStandard state
      have separatorForward := apply_advances rules separatorStandard (value.apply grammar state)
      have forward := valueForward.trans separatorForward
      have moved : (separator.apply grammar (value.apply grammar state)).position ≠
          state.position := by
        have consumed := consumes state found
        have before := valueForward.position_le
        have after := separatorForward.position_le
        omega
      rw [apply_sepBy_of_round rules separatorStandard valueStandard running found parted moved,
        apply_sepBy_of_separator rules separatorStandard valueStandard found parted]
      · intro again
        have consumed := consumes _ again
        have before := separatorForward.position_le
        have after := (apply_advances rules valueStandard
          (separator.apply grammar (value.apply grammar state))).position_le
        omega
      · exact fun again => ih _ (byteLength_rest_lt forward moved) parted again rfl
    · rw [State.followedBy_of_failed rejected.1] at pair
      have none : ((separatedValue separator value).apply grammar
          (value.apply grammar state)).Rejected := by
        rw [pair]
        exact rejected
      rw [apply_sepBy_of_no_separator rules separatorStandard valueStandard running found rejected,
        afterValue_of_rejected rules separatorStandard valueStandard found none,
        apply_orNothing_of_rejected found rejected]
      simp [State.followedBy, State.prepend, found]
    · have failed := State.failed_of_failedFatally fatal
      rw [State.followedBy_of_failed failed,
        (apply_settled rules separatorStandard _).cleared_eq failed] at pair
      rw [apply_sepBy_of_fatal_separator rules separatorStandard valueStandard running found fatal,
        afterValue_of_fatal rules separatorStandard valueStandard found (by rwa [pair]), pair,
        State.prepend_of_failed _ failed]

end Rows

theorem apply_sepBy_gathered (grammar : Grammar R) (separator value : Parser R α)
    (running : state.failed = false) :
    Gathered state ((Parser.sepBy separator value).apply grammar state) := by
  rw [apply_sepBy grammar separator value running]
  exact (separateFrom_gathered (separator.trace grammar) (value.trace grammar) (stepBound state)
    state.cleared running).of_cleared

/-- Both kinds of lists come to the same from a state that has not failed. -/
theorem apply_spelledOut (rules : grammar.Standard) (separatorStandard : separator.Standard)
    (valueStandard : value.Standard)
    (consumes : ∀ state : State α, (value.apply grammar state).failed = false →
      (value.apply grammar state).position ≠ state.position)
    (running : state.failed = false) :
    (spelledOut separator value).apply grammar state =
      (Parser.sepBy separator value).apply grammar state := by
  have row := apply_spelledRow grammar separatorStandard valueStandard running
  rcases (value.apply grammar state).outcome_cases with found | rejected | fatal
  · rw [State.followedBy_of_running found, ← apply_sepBy_of_value rules separatorStandard
      valueStandard consumes running found] at row
    have gathered := apply_sepBy_gathered grammar separator value running
    have kept : ¬((spelledRow separator value).apply grammar state).Rejected := by
      rw [row]
      exact fun rejected => rejected.not_running (gathered.running running rejected.2)
    rw [spelledOut, apply_orNothing_of_kept running kept, row]
  · rw [State.followedBy_of_failed rejected.1] at row
    have rejected_row : ((spelledRow separator value).apply grammar state).Rejected := by
      rw [row]
      exact rejected
    rw [spelledOut, apply_orNothing_of_rejected running rejected_row,
      apply_sepBy_of_rejected rules separatorStandard valueStandard running rejected]
  · have failed := State.failed_of_failedFatally fatal
    rw [State.followedBy_of_failed failed,
      (apply_settled rules valueStandard state).cleared_eq failed] at row
    have kept : ¬((spelledRow separator value).apply grammar state).Rejected := by
      rw [row]
      exact fun rejected => absurd fatal (by simp [rejected.2])
    rw [spelledOut, apply_orNothing_of_kept running kept, row,
      apply_sepBy_of_fatal rules separatorStandard valueStandard running fatal]

theorem apply_sepBy1 {σ : Type} (grammar : Grammar R) (separator : Parser R σ)
    (value : Parser R α) {state : State α} (running : state.failed = false) :
    (Parser.sepBy1 separator value).apply grammar state =
      ((Parser.sepBy separator value).apply grammar state).requireItems .emptySeparatedList := by
  rw [apply_sepBy grammar separator value running]
  exact value_unlessFailed_of_running running _

/-- A separated list is the list that is spelled out with the other combinators, if its values
consume something. The form that wants a value is the same but for a failure on the spot where there
is none. -/
theorem sepBy_is_spelled_out {grammar : Grammar R} (rules : grammar.Standard)
    {separator value : Parser R α} (separatorStandard : separator.Standard)
    (valueStandard : value.Standard)
    (consumes : ∀ state : State α, (value.apply grammar state).failed = false →
      (value.apply grammar state).position ≠ state.position)
    (state : State α) :
    (Parser.sepBy separator value).apply grammar state =
        (spelledOut separator value).apply grammar state ∧
      (Parser.sepBy1 separator value).apply grammar state =
        let all := (spelledOut separator value).apply grammar state
        if !all.failed && all.result.isEmpty then
          state.withError (.emptySeparatedList state.position)
        else all := by
  cases failed : state.failed with
  | true =>
    have spelled : (spelledOut separator value).apply grammar state = state.cleared :=
      value_unlessFailed_of_failed failed _
    rw [spelled]
    refine ⟨value_unlessFailed_of_failed failed _, ?_⟩
    simp only [State.failed_cleared, failed]
    exact value_unlessFailed_of_failed failed _
  | false =>
    rw [apply_spelledOut rules separatorStandard valueStandard consumes failed]
    refine ⟨rfl, ?_⟩
    rw [apply_sepBy1 grammar separator value failed]
    exact (apply_sepBy_gathered grammar separator value failed).requireItems_eq .emptySeparatedList

/-- A run that is read has a character. -/
theorem run_consumes (grammar : Grammar R) (kind : CharRun) (state : State String)
    (found : ((Parser.run kind).apply grammar state).failed = false) :
    ((Parser.run kind).apply grammar state).position ≠ state.position := by
  cases failed : state.failed with
  | true =>
    have passed : (Parser.run kind).apply grammar state = state.cleared :=
      value_unlessFailed_of_failed failed _
    rw [passed] at found
    exact absurd (failed.symm.trans found) (by simp)
  | false =>
    rcases run_cases (enterBody grammar (allLevels - 1)) [] kind failed with
      ⟨word, rest, nonempty, _, reads⟩ | rejected
    · exact reads.moves nonempty
    · exact absurd found rejected.not_running

end Parser

namespace Brackets

/-- Words with any number of commas between them, also with some after the last word. -/
theorem words_spelled_out :
    (Parser.spelledOut (.many (.literal ",")) .letters).apply grammar (.start "ab,,c,1") =
      ⟨.place "ab,,c,1" 6, .list [.value "ab", .value "c"], none, 0⟩ := by
  have rules : grammar.Standard := grammarWithin_standard defaultLimit
  have letters : (Parser.letters : Parser Rule String).Standard := .run .letters
  have spelled := Parser.sepBy_is_spelled_out rules (.many (.literal ",")) letters
    (Parser.run_consumes grammar .letters) (.start "ab,,c,1")
  rw [← spelled.1]
  decide +kernel

end Brackets

end Descent
