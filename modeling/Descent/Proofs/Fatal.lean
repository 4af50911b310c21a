import Descent.Log
import Descent.Proofs.Standard

set_option autoImplicit false

/-!
Fatal failures end a parse.

Once the application of a part has returned a fatal failure, all that can still happen is that the
applications around it return too, with the same position and the same root cause. `PassesOn` says
this of what follows such a failure and `Conclusive` of a whole application, which is made up of
conclusive parts by `Traced.Conclusive.bind`.
-/

namespace Descent

/-- The state stands at the position and has failed for the given reason. -/
structure State.Bears {α : Type} (state : State α) (position : Nat) (root : Failure) : Prop where
  position_eq : state.position = position
  root_eq : state.error.map Failure.rootCause = some root

/-- The end of a rule, or of an application that has failed at the position for the given reason. -/
def Event.PassesOn (position : Nat) (root : Failure) (event : Event) : Prop :=
  event = .left ∨ ∃ cause, event = .returned position (some cause) ∧ cause.rootCause = root

theorem Event.passesOn_returned {place position : Nat} {failure root : Failure} :
    (Event.returned place (some failure)).PassesOn position root ↔
      place = position ∧ failure.rootCause = root := by
  constructor
  · rintro (same | ⟨cause, same, rooted⟩)
    · cases same
    · cases same
      exact ⟨rfl, rooted⟩
  · rintro ⟨rfl, rooted⟩
    exact .inr ⟨failure, rfl, rooted⟩

namespace Traced

variable {α β : Type}

/-- Nothing but returns happens, and the failure comes out. -/
structure PassesOn (position : Nat) (root : Failure) (work : Traced (State α)) : Prop where
  state : work.value.Bears position root
  events : ∀ event ∈ work.events, event.PassesOn position root

/-- What follows the return of a fatal failure only passes it on. -/
def Conclusive (work : Traced (State α)) : Prop :=
  ∀ (before after : List Event) (position : Nat) (failure : Failure), failure.isFatal = true →
    work.events = before ++ .returned position (some failure) :: after →
    work.value.Bears position failure.rootCause ∧
      ∀ event ∈ after, event.PassesOn position failure.rootCause

end Traced

namespace State.Bears

variable {α β : Type} {state : State α} {position : Nat} {root : Failure}

theorem exists_error (bears : state.Bears position root) :
    ∃ cause, state.error = some cause ∧ cause.rootCause = root := by
  simpa using bears.root_eq

theorem failed (bears : state.Bears position root) : state.failed = true := by
  obtain ⟨cause, error, _⟩ := bears.exists_error
  simp [State.failed, error]

theorem failedFatally (bears : state.Bears position root) (fatal : root.isNesting = true) :
    state.failedFatally = true := by
  obtain ⟨cause, error, same⟩ := bears.exists_error
  simp [State.failedFatally, Failure.isFatal, error, same, fatal]

theorem cleared (bears : state.Bears position root) : (state.cleared : State β).Bears position root :=
  ⟨bears.1, bears.2⟩

end State.Bears

theorem State.bears_of_failedFatally {α : Type} {state : State α}
    (fatal : state.failedFatally = true) :
    ∃ root, root.isNesting = true ∧ state.Bears state.position root := by
  cases error : state.error with
  | none => simp [State.failedFatally, error] at fatal
  | some cause =>
    refine ⟨cause.rootCause, ?_, rfl, by simp [error]⟩
    simpa [State.failedFatally, error, Failure.isFatal] using fatal

namespace Traced

variable {α β : Type}

theorem PassesOn.of_pure {position : Nat} {root : Failure} {state : State α}
    (bears : state.Bears position root) : (pure state : Traced (State α)).PassesOn position root :=
  ⟨bears, by simp⟩

theorem Conclusive.of_pure (state : State α) : (pure state : Traced (State α)).Conclusive := by
  intro before after position failure _ split
  simp at split

/-- A part that is conclusive may be followed by anything that is conclusive unless the part fails
fatally, and then passes its failure on. -/
theorem Conclusive.bind {first : Traced (State α)} {next : State α → Traced (State β)}
    (conclusive : first.Conclusive)
    (goesOn : first.value.failedFatally = false → (next first.value).Conclusive)
    (stops : ∀ position root, root.isNesting = true → first.value.Bears position root →
      (next first.value).PassesOn position root) :
    (first >>= next).Conclusive := by
  intro before after position failure fatal split
  rw [events_bind] at split
  rw [value_bind]
  -- The failure is returned within the second part.
  have second : ∀ middle, (next first.value).events =
      middle ++ .returned position (some failure) :: after →
      (next first.value).value.Bears position failure.rootCause ∧
        ∀ event ∈ after, event.PassesOn position failure.rootCause := by
    intro middle split
    by_cases stopped : first.value.failedFatally = true
    · obtain ⟨root, nesting, bears⟩ := State.bears_of_failedFatally stopped
      obtain ⟨bears, passes⟩ := stops _ root nesting bears
      obtain ⟨rfl, rfl⟩ := Event.passesOn_returned.mp
        (passes (.returned position (some failure)) (by simp [split]))
      exact ⟨bears, fun event member => passes event (by simp [split, member])⟩
    · exact goesOn (by simpa using stopped) middle after position failure fatal split
  rcases List.append_eq_append_iff.mp split with ⟨middle, _, rest⟩ | ⟨middle, first_eq, rest⟩
  · exact second middle rest
  · rcases List.cons_eq_append_iff.mp rest with ⟨_, rest⟩ | ⟨middle, rfl, after_eq⟩
    · exact second [] (by simp [rest])
    · obtain ⟨bears, passes⟩ := conclusive before middle position failure fatal first_eq
      obtain ⟨bears, passes'⟩ := stops position failure.rootCause fatal bears
      refine ⟨bears, ?_⟩
      intro event member
      rw [after_eq] at member
      rcases List.mem_append.mp member with inFirst | inSecond
      · exact passes event inFirst
      · exact passes' event inSecond

/-- An event other than a return does not matter. -/
theorem Conclusive.emit {event : Event} {work : Traced (State α)} (conclusive : work.Conclusive)
    (silent : ∀ position failure, event ≠ .returned position (some failure)) :
    (do Traced.emit event; work).Conclusive := by
  intro before after position failure fatal split
  change event :: work.events = before ++ _ :: after at split
  rcases List.cons_eq_append_iff.mp split with ⟨_, same⟩ | ⟨before, rfl, rest⟩
  · exact absurd (List.cons.inj same).1.symm (silent position failure)
  · exact conclusive before after position failure fatal rest

/-- A change that keeps every failure. -/
theorem Conclusive.map {work : Traced (State α)} (conclusive : work.Conclusive)
    {change : State α → State α} (keeps : ∀ state : State α, state.failed = true →
      (change state).position = state.position ∧ (change state).error = state.error) :
    (change <$> work).Conclusive := by
  intro before after position failure fatal split
  obtain ⟨bears, passes⟩ := conclusive before after position failure fatal split
  obtain ⟨position_eq, error_eq⟩ := keeps work.value bears.failed
  refine ⟨⟨?_, ?_⟩, passes⟩
  · rw [value_map, position_eq, bears.position_eq]
  · rw [value_map, error_eq, bears.root_eq]

end Traced

namespace Parser

open Traced (Conclusive)

variable {R : Type → Type} {α β σ : Type}

/-- The return of an application. -/
theorem returned_conclusive (state : State α) :
    (do Traced.emit (.returned state.position state.error); return state :
      Traced (State α)).Conclusive := by
  intro before after position failure fatal split
  change [Event.returned state.position state.error] = before ++ _ :: after at split
  obtain ⟨rfl, rfl⟩ : before = [] ∧ after = [] := by
    rcases List.cons_eq_append_iff.mp split with ⟨nil, same⟩ | ⟨_, _, rest⟩
    · exact ⟨nil, (List.cons.inj same).2⟩
    · simp at rest
  obtain ⟨position_eq, error_eq⟩ : state.position = position ∧ state.error = some failure := by
    simpa using split
  exact ⟨⟨position_eq, by simp [error_eq]⟩, by simp⟩

theorem application_conclusive {state : State α} {work : Traced (State α)}
    (conclusive : work.Conclusive) : (application state work).Conclusive := by
  refine Conclusive.emit (conclusive.bind ?_ ?_) (by simp)
  · intro _
    exact returned_conclusive work.value
  · intro position root _ bears
    refine ⟨bears, ?_⟩
    intro event member
    obtain ⟨cause, error, same⟩ := bears.exists_error
    refine .inr ⟨cause, ?_, same⟩
    rw [← bears.position_eq, ← error]
    simpa using member

theorem unlessFailed_conclusive {state : State α} {work : Traced (State α)}
    (conclusive : work.Conclusive) :
    (application state (unlessFailed state work)).Conclusive := by
  apply application_conclusive
  unfold unlessFailed
  split
  · exact .of_pure _
  · exact conclusive

theorem matchLiteral_conclusive (expected : String) (state : State String) :
    (matchLiteral expected state).Conclusive := by
  refine Conclusive.emit ?_ (by simp)
  split
  · exact .of_pure _
  · split <;> exact .of_pure _

theorem matchPattern_conclusive (source : String) (matchLength? : List Char → Option Nat)
    (state : State String) : (matchPattern source matchLength? state).Conclusive := by
  refine Conclusive.emit ?_ (by simp)
  split
  · exact .of_pure _
  · split <;> exact .of_pure _

theorem prepend_conclusive {work : Traced (State α)} (conclusive : work.Conclusive)
    (item : Output α) : (State.prepend item <$> work).Conclusive := by
  apply conclusive.map
  intro state failed
  simp [State.prepend_of_failed item failed]

theorem requireItems_conclusive {work : Traced (State α)} (conclusive : work.Conclusive)
    (failure : Nat → Failure) : (State.requireItems failure <$> work).Conclusive := by
  apply conclusive.map
  intro state failed
  simp [State.requireItems_of_failed failure failed]

/-- A part that is recovered from unless its failure is fatal. -/
theorem bind_calm_conclusive {first : Traced (State α)} {next : State α → Traced (State β)}
    (conclusive : first.Conclusive)
    (goesOn : first.value.failedFatally = false → (next first.value).Conclusive) :
    (do
      let after ← first
      if after.failedFatally then return after.cleared else next after).Conclusive := by
  refine conclusive.bind ?_ ?_
  · intro calm
    rw [if_neg (by simp [calm])]
    exact goesOn calm
  · intro position root nesting bears
    rw [if_pos (bears.failedFatally nesting)]
    exact .of_pure bears.cleared

theorem repeatFrom_conclusive {step : State α → Traced (State α)}
    (conclusive : ∀ state : State α, (step state).Conclusive) (bound : Nat) (state : State α) :
    (repeatFrom step bound state).Conclusive := by
  induction bound generalizing state with
  | zero => exact .of_pure _
  | succ bound ih =>
    apply bind_calm_conclusive (conclusive state)
    intro _
    split
    · exact .of_pure _
    · split
      · exact .of_pure _
      · exact prepend_conclusive (ih _) _

theorem separateFrom_conclusive {separator : State σ → Traced (State σ)}
    {value : State α → Traced (State α)}
    (separatorConclusive : ∀ state : State σ, (separator state).Conclusive)
    (valueConclusive : ∀ state : State α, (value state).Conclusive) (bound : Nat)
    (state : State α) : (separateFrom separator value bound state).Conclusive := by
  induction bound generalizing state with
  | zero => exact .of_pure _
  | succ bound ih =>
    apply bind_calm_conclusive (valueConclusive state)
    intro _
    split
    · exact .of_pure _
    · apply bind_calm_conclusive (separatorConclusive _)
      intro _
      split
      · exact .of_pure _
      · split
        · exact .of_pure _
        · exact prepend_conclusive (ih _) _

/-- What is done with a result passes every failure on, cleared. -/
theorem bind_cleared_conclusive {first : Traced (State α)} {next : State α → Traced (State β)}
    (conclusive : first.Conclusive)
    (goesOn : first.value.failed = false → (next first.value).Conclusive) :
    (do
      let after ← first
      if after.failed then return after.cleared else next after).Conclusive := by
  refine conclusive.bind ?_ ?_
  · intro _
    split
    · exact .of_pure _
    · exact goesOn (by simp_all)
  · intro position root _ bears
    rw [if_pos bears.failed]
    exact .of_pure bears.cleared

variable {enter : Enter R} {scope : Address}

theorem sequenceWith_conclusive {parsers : List (Parser R α)}
    (conclusive : ∀ parser ∈ parsers, ∀ state : State α,
      (traceWith enter scope parser state).Conclusive) (state : State α) :
    (sequenceWith enter scope (.ofList parsers) state).Conclusive := by
  induction parsers generalizing state with
  | nil => exact .of_pure _
  | cons parser rest ih =>
    apply bind_cleared_conclusive (conclusive parser (by simp) state)
    intro _
    exact prepend_conclusive (ih (fun parser member => conclusive parser (by simp [member])) _) _

theorem chooseWith_conclusive {alternatives : List (Parser R α)}
    (conclusive : ∀ parser ∈ alternatives, ∀ state : State α,
      (traceWith enter scope parser state).Conclusive) (state : State α) :
    (chooseWith enter scope (.ofList alternatives) state).Conclusive := by
  induction alternatives with
  | nil => exact .of_pure _
  | cons parser rest ih =>
    refine (conclusive parser (by simp) state).bind ?_ ?_
    · intro _
      split
      · exact .of_pure _
      · exact Conclusive.emit (ih fun parser member => conclusive parser (by simp [member])) (by simp)
    · intro position root nesting bears
      rw [if_pos (by simp [bears.failedFatally nesting])]
      exact .of_pure bears

theorem traceWith_conclusive
    (enters : ∀ {α : Type} (address : Address) (rule : R α) (state : State α),
      (enter address rule state).Conclusive)
    {parser : Parser R α} (standard : parser.Standard) (state : State α) :
    (traceWith enter scope parser state).Conclusive := by
  induction standard with
  | literal expected => exact unlessFailed_conclusive (matchLiteral_conclusive _ _)
  | pattern expected => exact unlessFailed_conclusive (matchPattern_conclusive _ _ _)
  | run kind => exact unlessFailed_conclusive (matchPattern_conclusive _ _ _)
  | sequence _ ih => exact unlessFailed_conclusive (sequenceWith_conclusive ih _)
  | choice _ ih => exact unlessFailed_conclusive (chooseWith_conclusive ih _)
  | many _ ih => exact unlessFailed_conclusive (repeatFrom_conclusive ih _ _)
  | many1 _ ih =>
    exact unlessFailed_conclusive (requireItems_conclusive (repeatFrom_conclusive ih _ _) _)
  | sepBy _ _ separator value =>
    exact unlessFailed_conclusive (separateFrom_conclusive separator value _ _)
  | sepBy1 _ _ separator value =>
    exact unlessFailed_conclusive
      (requireItems_conclusive (separateFrom_conclusive separator value _ _) _)
  | between _ _ _ left right content =>
    apply unlessFailed_conclusive
    apply bind_cleared_conclusive (left _)
    intro _
    apply bind_cleared_conclusive (content _)
    intro _
    apply bind_cleared_conclusive (right _)
    intro _
    exact .of_pure _
  | lazy cell limit rule =>
    apply unlessFailed_conclusive
    split
    · exact .of_pure _
    · refine (enters _ _ _).bind ?_ ?_
      · intro _
        exact .of_pure _
      · intro position root _ bears
        exact .of_pure ⟨bears.1, bears.2⟩
  | named _ _ ih => exact ih state
  | map f _ ih =>
    apply application_conclusive
    apply bind_cleared_conclusive (ih _)
    intro _
    exact Conclusive.emit (.of_pure _) (by simp)
  | chain _ _ first second =>
    apply application_conclusive
    apply bind_cleared_conclusive (first _)
    intro _
    exact Conclusive.emit (second _ _) (by simp)
  | errorMap message _ ih =>
    apply application_conclusive
    refine (ih state).bind ?_ ?_
    · intro _
      split <;> exact .of_pure _
    · intro position root _ bears
      obtain ⟨cause, error, rfl⟩ := bears.exists_error
      simp only [error]
      exact .of_pure ⟨bears.1, rfl⟩

theorem traceLevels_conclusive {grammar : Grammar R} (rules : grammar.Standard) (levels : Nat)
    (scope : Address) {parser : Parser R α} (standard : parser.Standard) (state : State α) :
    (traceLevels grammar levels scope parser state).Conclusive := by
  induction levels generalizing α scope with
  | zero => exact .of_pure _
  | succ levels ih =>
    rw [traceLevels_succ]
    refine traceWith_conclusive ?_ standard state
    intro α address rule state
    refine Conclusive.emit ((ih address (rules α rule) state).bind ?_ ?_) (by simp)
    · intro _
      exact Conclusive.emit (.of_pure _) (by simp)
    · intro position root _ bears
      refine ⟨bears, ?_⟩
      intro event member
      exact .inl (by simpa using member)

end Parser

/-! ## The log -/

theorem recordsOf_append (built : List Address) (first second : List Event) :
    recordsOf built (first ++ second) =
      ((recordsOf built first).1 ++ (recordsOf (recordsOf built first).2 second).1,
        (recordsOf (recordsOf built first).2 second).2) := by
  induction first generalizing built with
  | nil => rfl
  | cons event events ih =>
    cases event with
    | entered address name =>
      simp only [List.cons_append, recordsOf]
      split <;> simp [ih]
    | _ => simp [recordsOf, ih]

/-- Events that are not reported and renew nothing leave the log and what is built as they are. -/
theorem recordsOf_of_unreported (built : List Address) {events : List Event}
    (unreported : ∀ event ∈ events, event.record? = none ∧ ∀ address, event ≠ .renewed address) :
    recordsOf built events = ([], built) := by
  induction events with
  | nil => rfl
  | cons event events ih =>
    obtain ⟨first, rest⟩ := List.forall_mem_cons.mp unreported
    cases event with
    | entered address name => exact nomatch first.1
    | renewed address => exact absurd rfl (first.2 address)
    | _ => simp [recordsOf, first.1, ih rest]

/-- Returns leave nothing in the log. -/
theorem recordsOf_of_passesOn {position : Nat} {root : Failure} (built : List Address)
    {events : List Event} (passes : ∀ event ∈ events, event.PassesOn position root) :
    recordsOf built events = ([], built) := by
  refine recordsOf_of_unreported built fun event member => ?_
  rcases passes event member with rfl | ⟨cause, rfl, _⟩
  · exact ⟨rfl, nofun⟩
  · exact ⟨rfl, nofun⟩

namespace Parser

variable {R : Type → Type} {α : Type}

/-- If the application of any part of a standard parser returns with too deep a nesting as the root
cause, then so does the whole, at the same position. All that happens in between is that parsers and
rules end. -/
theorem fatal_failure_is_final {grammar : Grammar R} (rules : grammar.Standard)
    {parser : Parser R α} (standard : parser.Standard) {state : State α}
    {before after : List Event} {position limit place : Nat} {failure : Failure}
    (nesting : failure.rootCause = .nestingTooDeep limit place)
    (returned : (parser.trace grammar state).events =
      before ++ .returned position (some failure) :: after) :
    (∃ cause, (parser.apply grammar state).error = some cause ∧
        cause.rootCause = .nestingTooDeep limit place) ∧
      (parser.apply grammar state).position = position ∧
      (∀ event ∈ after, event = .left ∨ ∃ cause, event = .returned position (some cause) ∧
        cause.rootCause = .nestingTooDeep limit place) ∧
      ∀ built, recordsOf built (parser.trace grammar state).events = recordsOf built before := by
  have fatal : failure.isFatal = true := by simp [Failure.isFatal, nesting, Failure.isNesting]
  obtain ⟨bears, passes⟩ := traceLevels_conclusive rules allLevels [] standard state
    before after position failure fatal returned
  rw [nesting] at bears passes
  refine ⟨bears.exists_error, bears.position_eq, passes, ?_⟩
  intro built
  rw [returned, recordsOf_append]
  simp [recordsOf, Event.record?, recordsOf_of_passesOn _ passes]

open Brackets

/-- A word whose rule begins with itself, under a loop and a choice. -/
theorem leftRecursiveWords_fails_for_good :
    ∃ before after, ((leftRecursiveWords 1).trace (leftRecursive 1) (.start "a")).events =
        before ++ .returned 0 (some (.nestingTooDeep 1 0)) :: after ∧
      (∃ cause, ((leftRecursiveWords 1).apply (leftRecursive 1) (.start "a")).error = some cause ∧
        cause.rootCause = .nestingTooDeep 1 0) ∧
      recordsOf [] ((leftRecursiveWords 1).trace (leftRecursive 1) (.start "a")).events =
        recordsOf [] before := by
  let events := ((leftRecursiveWords 1).trace (leftRecursive 1) (.start "a")).events
  have returned : events =
      events.take 8 ++ .returned 0 (some (.nestingTooDeep 1 0)) :: events.drop 9 := rfl
  obtain ⟨failed, _, _, records⟩ := fatal_failure_is_final (leftRecursive_standard 1)
    (leftRecursiveWords_standard 1) rfl returned
  exact ⟨_, _, returned, failed, records []⟩

end Parser

end Descent
