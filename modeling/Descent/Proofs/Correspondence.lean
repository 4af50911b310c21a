import Descent.Proofs.Failing

set_option autoImplicit false

/-!
Runs that take the same turns.

What a standard parser does next depends on what remains, on results, on whether a position has
changed and on whether a failure is fatal. Two runs that agree in this go the same way, even if they
are at different places of different texts and word their failures differently. A `Correspondence`
says how their failures may differ, `State.Parallel` relates states before which the same text
remains, and `State.Agrees` relates outcomes. Every combinator keeps the agreement of its parts.
-/

namespace Descent

namespace Failure

/-- The same failure so many bytes further on, with all of its causes. -/
def shift (offset : Nat) : Failure → Failure
  | .unexpectedEnd matcher expected position => .unexpectedEnd matcher expected (position + offset)
  | .literalMismatch expected found position => .literalMismatch expected found (position + offset)
  | .patternMismatch pattern position => .patternMismatch pattern (position + offset)
  | .choiceExhausted position => .choiceExhausted (position + offset)
  | .emptyRepetition position => .emptyRepetition (position + offset)
  | .emptySeparatedList position => .emptySeparatedList (position + offset)
  | .nestingTooDeep limit position => .nestingTooDeep limit (position + offset)
  | .mapped message position cause => .mapped message (position + offset) (cause.shift offset)

@[simp] theorem shift_zero (failure : Failure) : failure.shift 0 = failure := by
  induction failure with
  | mapped message position cause ih => simp [shift, ih]
  | _ => rfl

@[simp] theorem isFatal_shift (offset : Nat) (failure : Failure) :
    (failure.shift offset).isFatal = failure.isFatal := by
  induction failure with
  | mapped message position cause ih => exact ih
  | _ => rfl

end Failure

/-- How the failures of two runs correspond. The first run is so many bytes ahead of the second. -/
structure Correspondence where
  offset : Nat
  Like : Failure → Failure → Prop
  /-- The same failure, raised by both runs. -/
  raised : ∀ failure : Failure, Like (failure.shift offset) failure
  /-- Only fatal failures correspond to fatal ones. -/
  fatal : ∀ {first second : Failure}, Like first second → first.isFatal = second.isFatal

namespace State

variable {α β : Type} {relation : Correspondence}

/-- The same text remains before both states, as many rules are open, and they have failed alike if
at all. Their results do not matter. -/
structure Parallel (relation : Correspondence) (first second : State α) : Prop where
  rest : first.rest = second.rest
  position : first.position = second.position + relation.offset
  depth : first.depth = second.depth
  error : Option.Rel relation.Like first.error second.error

/-- Parallel states with the same result. -/
structure Agrees (relation : Correspondence) (first second : State α) : Prop extends
    Parallel relation first second where
  result : first.result = second.result

namespace Parallel

variable {first second : State α}

theorem failed (parallel : Parallel relation first second) : first.failed = second.failed := by
  have error := parallel.error
  unfold State.failed
  generalize first.error = one, second.error = two at error
  cases error <;> rfl

theorem failedFatally (parallel : Parallel relation first second) :
    first.failedFatally = second.failedFatally := by
  have error := parallel.error
  unfold State.failedFatally
  generalize first.error = one, second.error = two at error
  cases error with
  | none => rfl
  | some like => exact relation.fatal like

/-- What is told of corresponding failures in the same way. -/
theorem map_error (parallel : Parallel relation first second) {tell tell' : Failure → β}
    (same : ∀ {failure failure' : Failure}, relation.Like failure failure' →
      tell failure = tell' failure') : first.error.map tell = second.error.map tell' := by
  have error := parallel.error
  generalize first.error = one, second.error = two at error
  cases error with
  | none => rfl
  | some like => exact congrArg some (same like)

theorem withResult (parallel : Parallel relation first second) (output : Output β) :
    Agrees relation (first.withResult output) (second.withResult output) :=
  ⟨⟨parallel.rest, parallel.position, parallel.depth, parallel.error⟩, rfl⟩

theorem cleared (parallel : Parallel relation first second) :
    Agrees relation (first.cleared : State β) second.cleared := parallel.withResult .empty

theorem withError (parallel : Parallel relation first second) {failure failure' : Failure}
    (like : relation.Like failure failure') :
    Agrees relation (first.withError failure : State β) (second.withError failure') :=
  ⟨⟨parallel.rest, parallel.position, parallel.depth, .some like⟩, rfl⟩

/-- Both runs raise the same failure, each at its own position. -/
theorem raise (parallel : Parallel relation first second) (failure : Nat → Failure)
    (shifts : ∀ position, (failure position).shift relation.offset =
      failure (position + relation.offset)) :
    Agrees relation (first.withError (failure first.position) : State β)
      (second.withError (failure second.position)) := by
  apply parallel.withError
  rw [parallel.position, ← shifts]
  exact relation.raised _

theorem consume (parallel : Parallel relation first second) (count : Nat) (output : Output β) :
    Agrees relation (first.consume count output) (second.consume count output) := by
  have rest := parallel.rest
  have position := parallel.position
  simp only [State.rest, State.position] at rest position
  refine ⟨⟨?_, ?_, parallel.depth, parallel.error⟩, rfl⟩
  · simp [State.rest, State.consume, rest]
  · simp [State.position, State.consume, rest, position, Nat.add_right_comm]

theorem atDepth (parallel : Parallel relation first second) (depth : Nat) :
    Parallel relation (first.atDepth depth) (second.atDepth depth) :=
  ⟨parallel.rest, parallel.position, rfl, parallel.error⟩

/-- Both runs have stayed where they were, or neither has. -/
theorem stalled_iff {first' second' : State β} (parallel : Parallel relation first second)
    (parallel' : Parallel relation first' second') :
    first'.position = first.position ↔ second'.position = second.position := by
  have position := parallel.position
  have position' := parallel'.position
  omega

end Parallel

namespace Agrees

variable {first second : State α}

theorem atDepth (agrees : Agrees relation first second) (depth : Nat) :
    Agrees relation (first.atDepth depth) (second.atDepth depth) :=
  ⟨agrees.toParallel.atDepth depth, agrees.result⟩

/-- Both runs take the same way at a branch. -/
theorem ite {c c' : Prop} [Decidable c] [Decidable c'] (same : c ↔ c')
    {yes yes' no no' : Traced (State α)} (whenYes : Agrees relation yes.value yes'.value)
    (whenNo : ¬c → Agrees relation no.value no'.value) :
    Agrees relation (if c then yes else no).value (if c' then yes' else no').value := by
  by_cases holds : c
  · rw [if_pos holds, if_pos (same.mp holds)]
    exact whenYes
  · rw [if_neg holds, if_neg (mt same.mpr holds)]
    exact whenNo holds

theorem singleton (agrees : Agrees relation first second) :
    Agrees relation (first.withResult (.list [first.result]))
      (second.withResult (.list [second.result])) := by
  rw [agrees.result]
  exact agrees.withResult _

theorem prepend {after after' : State α} (others : Agrees relation after after')
    {item item' : Output α} (same : item = item') :
    Agrees relation (after.prepend item) (after'.prepend item') := by
  subst same
  unfold State.prepend
  rw [others.failed, others.result]
  split
  · exact others
  · split
    · exact others.withResult _
    · exact others

theorem requireItems (agrees : Agrees relation first second) (failure : Nat → Failure)
    (shifts : ∀ position, (failure position).shift relation.offset =
      failure (position + relation.offset)) :
    Agrees relation (first.requireItems failure) (second.requireItems failure) := by
  unfold State.requireItems
  rw [agrees.failed, agrees.result]
  split
  · exact agrees.raise failure shifts
  · exact agrees

end Agrees

end State

namespace Parser

open State (Parallel Agrees)

variable {R : Type → Type} {α β σ : Type} {relation : Correspondence}

/-- The second parser is the first with other names and other messages, perhaps with none. Messages
may only be changed so that failures still correspond. -/
inductive Resembles (relation : Correspondence) : {α : Type} → Parser R α → Parser R α → Prop where
  | literal (expected : String) : Resembles relation (.literal expected) (.literal expected)
  | pattern (expected : Pattern) : Resembles relation (.pattern expected) (.pattern expected)
  | run (kind : CharRun) : Resembles relation (.run kind) (.run kind)
  | sequence {α : Type} {pairs : List (Parser R α × Parser R α)} :
      (∀ pair ∈ pairs, Resembles relation pair.1 pair.2) →
      Resembles relation (.sequence (.ofList (pairs.map Prod.fst)))
        (.sequence (.ofList (pairs.map Prod.snd)))
  | choice {α : Type} {pairs : List (Parser R α × Parser R α)} :
      (∀ pair ∈ pairs, Resembles relation pair.1 pair.2) →
      Resembles relation (.choice (.ofList (pairs.map Prod.fst)))
        (.choice (.ofList (pairs.map Prod.snd)))
  | many {α : Type} {body body' : Parser R α} :
      Resembles relation body body' → Resembles relation (.many body) (.many body')
  | many1 {α : Type} {body body' : Parser R α} :
      Resembles relation body body' → Resembles relation (.many1 body) (.many1 body')
  | sepBy {σ α : Type} {separator separator' : Parser R σ} {value value' : Parser R α} :
      Resembles relation separator separator' → Resembles relation value value' →
      Resembles relation (.sepBy separator value) (.sepBy separator' value')
  | sepBy1 {σ α : Type} {separator separator' : Parser R σ} {value value' : Parser R α} :
      Resembles relation separator separator' → Resembles relation value value' →
      Resembles relation (.sepBy1 separator value) (.sepBy1 separator' value')
  | between {l r α : Type} {left left' : Parser R l} {right right' : Parser R r}
      {content content' : Parser R α} :
      Resembles relation left left' → Resembles relation right right' →
      Resembles relation content content' →
      Resembles relation (.between left right content) (.between left' right' content')
  | lazy {α : Type} (cell : Nat) (limit : UInt64) (rule : R α) :
      Resembles relation (.lazy cell limit rule) (.lazy cell limit rule)
  | named {α : Type} (name name' : String) {parser parser' : Parser R α} :
      Resembles relation parser parser' →
      Resembles relation (.named name parser) (.named name' parser')
  | unnamed {α : Type} (name : String) {parser parser' : Parser R α} :
      Resembles relation parser parser' → Resembles relation (.named name parser) parser'
  | map {α β : Type} (f : Output α → Output β) {parser parser' : Parser R α} :
      Resembles relation parser parser' → Resembles relation (.map parser f) (.map parser' f)
  | chain {α β : Type} {parser parser' : Parser R α} {next next' : Output α → Parser R β} :
      Resembles relation parser parser' →
      (∀ output, Resembles relation (next output) (next' output)) →
      Resembles relation (.chain parser next) (.chain parser' next')
  | errorMap {α : Type} {message message' : Failure → Nat → String} {parser parser' : Parser R α} :
      (∀ {cause cause'} position, relation.Like cause cause' →
        relation.Like
          (.mapped (message cause (position + relation.offset)) (position + relation.offset) cause)
          (.mapped (message' cause' position) position cause')) →
      Resembles relation parser parser' →
      Resembles relation (.errorMap parser message) (.errorMap parser' message')
  | unmapped {α : Type} {message : Failure → Nat → String} {parser parser' : Parser R α} :
      (∀ {cause cause'} position, relation.Like cause cause' →
        relation.Like (.mapped (message cause position) position cause) cause') →
      Resembles relation parser parser' → Resembles relation (.errorMap parser message) parser'

theorem Resembles.standard {parser parser' : Parser R α}
    (resembles : Resembles relation parser parser') : parser.Standard := by
  induction resembles with
  | literal expected => exact .literal expected
  | pattern expected => exact .pattern expected
  | run kind => exact .run kind
  | sequence _ ih => exact .sequence (by simpa using fun first second => ih (first, second))
  | choice _ ih => exact .choice (by simpa using fun first second => ih (first, second))
  | many _ ih => exact .many ih
  | many1 _ ih => exact .many1 ih
  | sepBy _ _ separator value => exact .sepBy separator value
  | sepBy1 _ _ separator value => exact .sepBy1 separator value
  | between _ _ _ left right content => exact .between left right content
  | lazy cell limit rule => exact .lazy cell limit rule
  | named name _ _ ih => exact .named name ih
  | unnamed name _ ih => exact .named name ih
  | map f _ ih => exact .map f ih
  | chain _ _ first second => exact .chain first second
  | errorMap _ _ ih => exact .errorMap _ ih
  | unmapped _ _ ih => exact .errorMap _ ih

theorem Resembles.sequence_map {parsers : List (Parser R α)} (change : Parser R α → Parser R α)
    (resembles : ∀ parser ∈ parsers, Resembles relation parser (change parser)) :
    Resembles relation (.sequence (.ofList parsers))
      (.sequence (.ofList (parsers.map change))) := by
  have paired := @Resembles.sequence R relation α
    (parsers.map fun parser => (parser, change parser))
  simpa [Function.comp_def] using paired (by simpa using resembles)

theorem Resembles.choice_map {alternatives : List (Parser R α)} (change : Parser R α → Parser R α)
    (resembles : ∀ parser ∈ alternatives, Resembles relation parser (change parser)) :
    Resembles relation (.choice (.ofList alternatives))
      (.choice (.ofList (alternatives.map change))) := by
  have paired := @Resembles.choice R relation α
    (alternatives.map fun parser => (parser, change parser))
  simpa [Function.comp_def] using paired (by simpa using resembles)

/-- A standard parser resembles itself where the same message over failures that correspond gives
failures that correspond. -/
theorem Standard.resembles
    (like : ∀ (message : Failure → Nat → String) {cause cause' : Failure} (position : Nat),
      relation.Like cause cause' →
      relation.Like
        (.mapped (message cause (position + relation.offset)) (position + relation.offset) cause)
        (.mapped (message cause' position) position cause'))
    {parser : Parser R α} (standard : parser.Standard) : Resembles relation parser parser := by
  induction standard with
  | literal expected => exact .literal expected
  | pattern expected => exact .pattern expected
  | run kind => exact .run kind
  | sequence _ ih => simpa using Resembles.sequence_map id ih
  | choice _ ih => simpa using Resembles.choice_map id ih
  | many _ ih => exact .many ih
  | many1 _ ih => exact .many1 ih
  | sepBy _ _ separator value => exact .sepBy separator value
  | sepBy1 _ _ separator value => exact .sepBy1 separator value
  | between _ _ _ left right content => exact .between left right content
  | lazy cell limit rule => exact .lazy cell limit rule
  | named name _ ih => exact .named name name ih
  | map f _ ih => exact .map f ih
  | chain _ _ first second => exact .chain first second
  | errorMap message _ ih => exact .errorMap (like message) ih

/-! ## Parts of parsers -/

theorem unlessFailed_agrees {state state' : State α} (parallel : Parallel relation state state')
    {work work' : Traced (State α)} (agrees : Agrees relation work.value work'.value) :
    Agrees relation (application state (unlessFailed state work)).value
      (application state' (unlessFailed state' work')).value :=
  .ite (by rw [parallel.failed]) parallel.cleared fun _ => agrees

theorem matchLiteral_agrees (expected : String) {state state' : State String}
    (parallel : Parallel relation state state') :
    Agrees relation (matchLiteral expected state).value (matchLiteral expected state').value := by
  refine .ite (by rw [parallel.rest]) (parallel.raise _ fun _ => rfl) fun _ => ?_
  refine .ite (by rw [parallel.rest]) (parallel.consume _ _) fun _ => ?_
  rw [parallel.rest]
  exact parallel.raise _ fun _ => rfl

theorem matchPattern_agrees (source : String) (matchLength? : List Char → Option Nat)
    {state state' : State String} (parallel : Parallel relation state state') :
    Agrees relation (matchPattern source matchLength? state).value
      (matchPattern source matchLength? state').value := by
  refine .ite (by rw [parallel.rest]) (parallel.raise _ fun _ => rfl) fun _ => ?_
  rw [parallel.rest]
  split
  · exact parallel.consume _ _
  · exact parallel.raise _ fun _ => rfl

/-- A part whose failure is that of the whole, and what is done after its success. -/
theorem bind_cleared_agrees {first first' : Traced (State α)}
    {next next' : State α → Traced (State β)} (agrees : Agrees relation first.value first'.value)
    (goesOn : Agrees relation (next first.value).value (next' first'.value).value) :
    Agrees relation
      (do let after ← first; if after.failed then return after.cleared else next after).value
      (do let after ← first'; if after.failed then return after.cleared else next' after).value :=
  .ite (by rw [agrees.failed]) agrees.cleared fun _ => goesOn

/-- A part that is recovered from unless its failure is fatal, and what is done after it. -/
theorem bind_calm_agrees {first first' : Traced (State α)}
    {next next' : State α → Traced (State β)} (agrees : Agrees relation first.value first'.value)
    (goesOn : Agrees relation (next first.value).value (next' first'.value).value) :
    Agrees relation
      (do let after ← first; if after.failedFatally then return after.cleared else next after).value
      (do
        let after ← first'
        if after.failedFatally then return after.cleared else next' after).value :=
  .ite (by rw [agrees.failedFatally]) agrees.cleared fun _ => goesOn

/-- Two steps that lead from parallel states to states that agree. -/
def Alike (relation : Correspondence) (step step' : State α → Traced (State α)) : Prop :=
  ∀ {state state' : State α}, Parallel relation state state' →
    Agrees relation (step state).value (step' state').value

/-- The bounds of both loops are never reached, so that they may differ. -/
theorem repeatFrom_agrees {step step' : State α → Traced (State α)}
    (forward : ∀ state : State α, state.Advances (step state).value)
    (agrees : Alike relation step step')
    {bound bound' : Nat} {state state' : State α} (parallel : Parallel relation state state')
    (bounded : Text.byteLength state.rest < bound)
    (bounded' : Text.byteLength state.rest < bound') :
    Agrees relation (repeatFrom step bound state).value (repeatFrom step' bound' state').value := by
  induction bound generalizing bound' state state' with
  | zero => omega
  | succ bound ih =>
    obtain ⟨bound', rfl⟩ : ∃ fewer, bound' = fewer + 1 := ⟨bound' - 1, by omega⟩
    have next := agrees parallel
    have moved := forward state
    refine bind_calm_agrees next ?_
    refine .ite (by rw [next.failed]) (parallel.withResult _) fun _ => ?_
    refine .ite (parallel.stalled_iff next.toParallel) next.singleton fun ahead => ?_
    -- A round that is not the last consumes something, so less remains than either bound allows for.
    have consumed := moved.position_add
    have started := moved.position_le
    refine (ih next.cleared.toParallel ?_ ?_).prepend next.result
    · change Text.byteLength (step state).value.rest < bound
      omega
    · change Text.byteLength (step state).value.rest < bound'
      omega

theorem separateFrom_agrees {separator separator' : State σ → Traced (State σ)}
    {value value' : State α → Traced (State α)}
    (separatorForward : ∀ state : State σ, state.Advances (separator state).value)
    (valueForward : ∀ state : State α, state.Advances (value state).value)
    (separatorAgrees : Alike relation separator separator')
    (valueAgrees : Alike relation value value')
    {bound bound' : Nat} {state state' : State α} (parallel : Parallel relation state state')
    (bounded : Text.byteLength state.rest < bound)
    (bounded' : Text.byteLength state.rest < bound') :
    Agrees relation (separateFrom separator value bound state).value
      (separateFrom separator' value' bound' state').value := by
  induction bound generalizing bound' state state' with
  | zero => omega
  | succ bound ih =>
    obtain ⟨bound', rfl⟩ : ∃ fewer, bound' = fewer + 1 := ⟨bound' - 1, by omega⟩
    have next := valueAgrees parallel
    refine bind_calm_agrees next ?_
    refine .ite (by rw [next.failed]) (parallel.withResult _) fun _ => ?_
    have between : Parallel relation (State.cleared _ : State σ) _ := next.cleared.toParallel
    have following := separatorAgrees between
    have moved := (valueForward state).cleared.trans (separatorForward (State.cleared _))
    refine bind_calm_agrees following ?_
    refine .ite (by rw [following.failed]) next.singleton fun _ => ?_
    refine .ite (parallel.stalled_iff following.toParallel) ?_ fun ahead => ?_
    · rw [next.result]
      exact following.withResult _
    have consumed := moved.position_add
    have started := moved.position_le
    refine (ih following.cleared.toParallel ?_ ?_).prepend next.result
    · change Text.byteLength (separator (State.cleared _)).value.rest < bound
      omega
    · change Text.byteLength (separator (State.cleared _)).value.rest < bound'
      omega

theorem repeated_agrees {step step' : State α → Traced (State α)}
    (forward : ∀ state : State α, state.Advances (step state).value)
    (agrees : Alike relation step step')
    {state state' : State α} (parallel : Parallel relation state state') :
    Agrees relation (repeatFrom step (stepBound state) state.cleared).value
      (repeatFrom step' (stepBound state') state'.cleared).value := by
  have bounded' := byteLength_rest_lt_stepBound state'
  rw [← parallel.rest] at bounded'
  exact repeatFrom_agrees forward agrees parallel.cleared.toParallel
    (byteLength_rest_lt_stepBound state) bounded'

theorem separated_agrees {separator separator' : State σ → Traced (State σ)}
    {value value' : State α → Traced (State α)}
    (separatorForward : ∀ state : State σ, state.Advances (separator state).value)
    (valueForward : ∀ state : State α, state.Advances (value state).value)
    (separatorAgrees : Alike relation separator separator')
    (valueAgrees : Alike relation value value')
    {state state' : State α} (parallel : Parallel relation state state') :
    Agrees relation (separateFrom separator value (stepBound state) state.cleared).value
      (separateFrom separator' value' (stepBound state') state'.cleared).value := by
  have bounded' := byteLength_rest_lt_stepBound state'
  rw [← parallel.rest] at bounded'
  exact separateFrom_agrees separatorForward valueForward separatorAgrees valueAgrees
    parallel.cleared.toParallel (byteLength_rest_lt_stepBound state) bounded'

variable {enter enter' : Enter R} {scope : Address}

theorem sequenceWith_agrees {pairs : List (Parser R α × Parser R α)}
    (agrees : ∀ pair ∈ pairs,
      Alike relation (traceWith enter scope pair.1) (traceWith enter' scope pair.2))
    {state state' : State α} (parallel : Parallel relation state state') :
    Agrees relation (sequenceWith enter scope (.ofList (pairs.map Prod.fst)) state).value
      (sequenceWith enter' scope (.ofList (pairs.map Prod.snd)) state').value := by
  induction pairs generalizing state state' with
  | nil => exact parallel.withResult _
  | cons pair rest ih =>
    have next := agrees pair (by simp) parallel
    refine bind_cleared_agrees next ((ih ?_ next.cleared.toParallel).prepend next.result)
    exact fun pair member => agrees pair (by simp [member])

theorem chooseWith_agrees {pairs : List (Parser R α × Parser R α)}
    (agrees : ∀ pair ∈ pairs,
      Alike relation (traceWith enter scope pair.1) (traceWith enter' scope pair.2))
    {state state' : State α} (parallel : Parallel relation state state') :
    Agrees relation (chooseWith enter scope (.ofList (pairs.map Prod.fst)) state).value
      (chooseWith enter' scope (.ofList (pairs.map Prod.snd)) state').value := by
  induction pairs with
  | nil => exact parallel.raise _ fun _ => rfl
  | cons pair rest ih =>
    have next := agrees pair (by simp) parallel
    refine .ite (by rw [next.failed, next.failedFatally]) next fun _ => ?_
    exact ih fun pair member => agrees pair (by simp [member])

theorem traceWith_agrees
    (forward : ∀ {α : Type} (address : Address) (rule : R α) (state : State α),
      state.Advances (enter address rule state).value)
    (settles : ∀ {α : Type} (address : Address) (rule : R α) (state : State α),
      (enter address rule state).value.Settled)
    (enters : ∀ {α : Type} (address : Address) (rule : R α),
      Alike relation (enter address rule) (enter' address rule))
    {parser parser' : Parser R α} (resembles : Resembles relation parser parser')
    {state state' : State α} (parallel : Parallel relation state state') :
    Agrees relation (traceWith enter scope parser state).value
      (traceWith enter' scope parser' state').value := by
  have moves {α : Type} {parser parser' : Parser R α}
      (resembles : Resembles relation parser parser') :=
    traceWith_advances forward scope resembles.standard
  induction resembles with
  | literal expected => exact unlessFailed_agrees parallel (matchLiteral_agrees expected parallel)
  | pattern expected => exact unlessFailed_agrees parallel (matchPattern_agrees _ _ parallel)
  | run kind => exact unlessFailed_agrees parallel (matchPattern_agrees _ _ parallel)
  | sequence _ ih =>
    exact unlessFailed_agrees parallel (sequenceWith_agrees ih parallel.cleared.toParallel)
  | choice _ ih => exact unlessFailed_agrees parallel (chooseWith_agrees ih parallel)
  | many resembles ih =>
    exact unlessFailed_agrees parallel (repeated_agrees (moves resembles) ih parallel)
  | many1 resembles ih =>
    have items := repeated_agrees (moves resembles) ih parallel
    exact unlessFailed_agrees parallel (items.requireItems _ fun _ => rfl)
  | sepBy separatorResembles valueResembles separator value =>
    exact unlessFailed_agrees parallel
      (separated_agrees (moves separatorResembles) (moves valueResembles) separator value parallel)
  | sepBy1 separatorResembles valueResembles separator value =>
    have items :=
      separated_agrees (moves separatorResembles) (moves valueResembles) separator value parallel
    exact unlessFailed_agrees parallel (items.requireItems _ fun _ => rfl)
  | between _ _ _ left right content =>
    have opened := left parallel.cleared.toParallel
    have filled := content opened.cleared.toParallel
    have closed := right filled.cleared.toParallel
    refine unlessFailed_agrees parallel (bind_cleared_agrees opened ?_)
    refine bind_cleared_agrees filled (bind_cleared_agrees closed ?_)
    rw [filled.result]
    exact closed.withResult _
  | lazy cell limit rule =>
    refine unlessFailed_agrees parallel (.ite (by rw [parallel.depth]) ?_ fun _ => ?_)
    · exact parallel.raise _ fun _ => rfl
    · rw [parallel.depth]
      exact (enters (cell :: scope) rule (parallel.cleared.toParallel.atDepth _)).atDepth _
  | named _ _ _ ih => exact ih parallel
  | unnamed _ _ ih => exact ih parallel
  | map f _ ih =>
    have inner := ih parallel.cleared.toParallel
    simp only [traceWith, value_application]
    refine bind_cleared_agrees inner ?_
    rw [inner.result]
    exact inner.withResult _
  | chain _ _ first second =>
    have inner := first parallel.cleared.toParallel
    simp only [traceWith, value_application]
    refine bind_cleared_agrees inner ?_
    rw [inner.result]
    exact second _ inner.cleared.toParallel
  | errorMap like _ ih =>
    have inner := ih parallel
    have error := inner.error
    simp only [traceWith, value_application, Traced.value_bind]
    generalize (traceWith enter scope _ state).value = after at *
    generalize (traceWith enter' scope _ state').value = after' at *
    generalize same : after.error = one, same' : after'.error = two at error
    cases error with
    | none => exact inner
    | some alike =>
      rw [inner.position]
      exact inner.withError (like _ alike)
  | unmapped like resembles ih =>
    have inner := ih parallel
    have error := inner.error
    have settled : (traceWith enter scope _ state).value.Settled :=
      traceWith_settled settles resembles.standard state
    simp only [traceWith, value_application, Traced.value_bind]
    generalize (traceWith enter scope _ state).value = after at *
    generalize (traceWith enter' scope _ state').value = after' at *
    generalize same : after.error = one, same' : after'.error = two at error
    cases error with
    | none => exact inner
    | some alike =>
      -- The second run keeps the result of the part, which is empty as the part has failed.
      have empty : after.result = .empty := settled (by simp [State.failed, same])
      refine ⟨⟨inner.rest, inner.position, inner.depth, ?_⟩, empty.symm.trans inner.result⟩
      rw [same']
      exact .some (like _ alike)

theorem traceLevels_agrees {grammar grammar' : Grammar R}
    (rules : ∀ (α : Type) (rule : R α), Resembles relation (grammar α rule) (grammar' α rule))
    (levels : Nat) (scope : Address) {parser parser' : Parser R α}
    (resembles : Resembles relation parser parser') {state state' : State α}
    (parallel : Parallel relation state state') :
    Agrees relation (traceLevels grammar levels scope parser state).value
      (traceLevels grammar' levels scope parser' state').value := by
  have standard : grammar.Standard := fun α rule => (rules α rule).standard
  induction levels generalizing α scope with
  | zero => exact parallel.cleared
  | succ levels ih =>
    rw [traceLevels_succ, traceLevels_succ]
    refine traceWith_agrees ?forward ?settles ?enters resembles parallel
    case forward =>
      intro α address rule state
      exact traceLevels_advances standard levels address (standard α rule) state
    case settles =>
      intro α address rule state
      exact traceLevels_settled standard levels address (standard α rule) state
    case enters =>
      intro α address rule state state' parallel
      exact ih address (rules α rule) parallel

/-- Parsers that differ in names and messages alone agree wherever the same text remains. -/
theorem apply_agrees {grammar grammar' : Grammar R}
    (rules : ∀ (α : Type) (rule : R α), Resembles relation (grammar α rule) (grammar' α rule))
    {parser parser' : Parser R α} (resembles : Resembles relation parser parser')
    {state state' : State α} (parallel : Parallel relation state state') :
    Agrees relation (parser.apply grammar state) (parser'.apply grammar' state') :=
  traceLevels_agrees rules allLevels [] resembles parallel

end Parser

end Descent
