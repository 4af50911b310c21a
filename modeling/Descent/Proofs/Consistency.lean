import Descent.Proofs.Failing
import Descent.Proofs.Reading

set_option autoImplicit false

/-!
Where failures are placed.

A failure is raised at the position of the state that fails, and a message is laid over it there
too, so that all its layers and the state agree on one position. Choices and loops give up the
progress of their attempts, so that a failure of their own stands where they began.
-/

namespace Descent

namespace Failure

/-- A failure and the failures under it, from the outermost message down to the root cause. -/
def layers : Failure → List Failure
  | .mapped message position cause => .mapped message position cause :: cause.layers
  | failure => [failure]

theorem mem_layers (failure : Failure) : failure ∈ failure.layers := by
  cases failure <;> simp [layers]

theorem rootCause_mem_layers (failure : Failure) : failure.rootCause ∈ failure.layers := by
  induction failure with
  | mapped message position cause ih => exact List.mem_cons_of_mem _ ih
  | _ => exact List.mem_singleton_self _

end Failure

namespace State

variable {α β : Type}

/-- All layers of the failure are placed where the state is. -/
def Placed (state : State α) : Prop :=
  ∀ failure ∈ state.error, ∀ layer ∈ failure.layers, layer.position = state.position

namespace Placed

theorem of_running {state : State α} (running : state.failed = false) : state.Placed := by
  intro failure raised
  have none : state.error = none := by simpa [State.failed] using running
  rw [none] at raised
  contradiction

theorem withError {state : State α} {failure : Failure}
    (layers : ∀ layer ∈ failure.layers, layer.position = state.position) :
    (state.withError failure : State β).Placed := by
  rintro _ ⟨⟩
  exact layers

/-- A failure without a message, raised on the spot. -/
theorem raised (state : State α) {raise : Nat → Failure}
    (plain : ∀ position, (raise position).layers = [raise position])
    (here : ∀ position, (raise position).position = position) :
    (state.withError (raise state.position) : State β).Placed := by
  refine withError fun layer member => ?_
  rw [plain, List.mem_singleton] at member
  rw [member, here]

theorem mapped {state : State α} (placed : state.Placed) {cause : Failure}
    (raised : state.error = some cause) (message : String) :
    (state.withError (.mapped message state.position cause) : State β).Placed := by
  refine withError fun layer member => ?_
  rcases List.mem_cons.mp member with rfl | member
  · rfl
  · exact placed cause raised layer member

theorem prepend {state : State α} (placed : state.Placed) (item : Output α) :
    (state.prepend item).Placed := by
  unfold State.prepend
  split
  · exact placed
  · split <;> exact placed

theorem requireItems {state : State α} (placed : state.Placed) {raise : Nat → Failure}
    (plain : ∀ position, (raise position).layers = [raise position])
    (here : ∀ position, (raise position).position = position) :
    (state.requireItems raise).Placed := by
  unfold State.requireItems
  split
  · exact .raised state plain here
  · exact placed

end Placed

end State

namespace Parser

open State (Placed)

variable {R : Type → Type} {α β σ : Type}

theorem placed_unlessFailed {state : State α} {work : Traced (State α)} (placed : state.Placed)
    (worked : state.failed = false → work.value.Placed) :
    (application state (unlessFailed state work)).value.Placed := by
  rw [value_application, value_unlessFailed]
  split
  next => exact placed
  next running => exact worked (by simpa using running)

theorem matchLiteral_placed (expected : String) {state : State String}
    (running : state.failed = false) : (matchLiteral expected state).value.Placed := by
  simp only [matchLiteral, Traced.value_bind]
  split
  · exact .raised state (fun _ => rfl) (fun _ => rfl)
  · split
    · exact .of_running running
    · exact .raised state (fun _ => rfl) (fun _ => rfl)

theorem matchPattern_placed (source : String) (matchLength? : List Char → Option Nat)
    {state : State String} (running : state.failed = false) :
    (matchPattern source matchLength? state).value.Placed := by
  simp only [matchPattern, Traced.value_bind]
  split
  · exact .raised state (fun _ => rfl) (fun _ => rfl)
  · split
    · exact .of_running running
    · exact .raised state (fun _ => rfl) (fun _ => rfl)

/-- A step that places the failures it raises. -/
def Places (step : State α → Traced (State α)) : Prop :=
  ∀ state : State α, state.Placed → (step state).value.Placed

theorem repeatFrom_placed {step : State α → Traced (State α)} (places : Places step) (bound : Nat) :
    Places (repeatFrom step bound) := by
  induction bound with
  | zero => exact fun _ placed => placed
  | succ bound ih =>
    intro state placed
    have next := places state placed
    simp only [repeatFrom, Traced.value_bind]
    split
    · exact next
    · split
      · exact placed
      · split
        · exact next
        · exact (ih (State.cleared _) next).prepend _

theorem separateFrom_placed {separator : State σ → Traced (State σ)}
    {value : State α → Traced (State α)} (separates : Places separator) (places : Places value)
    (bound : Nat) : Places (separateFrom separator value bound) := by
  induction bound with
  | zero => exact fun _ placed => placed
  | succ bound ih =>
    intro state placed
    have afterValue := places state placed
    have afterSeparator := separates (value state).value.cleared afterValue
    simp only [separateFrom, Traced.value_bind]
    split
    · exact afterValue
    · split
      · exact placed
      · simp only [Traced.value_bind]
        split
        · exact afterSeparator
        · split
          · exact afterValue
          · split
            · exact afterSeparator
            · exact (ih (State.cleared _) afterSeparator).prepend _

/-- A part and what follows it, which passes the failure of the part on. -/
theorem bind_cleared_placed {first : Traced (State α)} {next : State α → Traced (State β)}
    (placed : first.value.Placed)
    (goesOn : first.value.failed = false → (next first.value).value.Placed) :
    (do
      let after ← first
      if after.failed then return after.cleared else next after).value.Placed := by
  rw [Traced.value_bind]
  split
  next => exact placed
  next running => exact goesOn (by simpa using running)

variable {enter : Enter R} {scope : Address}

theorem sequenceWith_placed {parsers : List (Parser R α)}
    (places : ∀ parser ∈ parsers, Places (traceWith enter scope parser)) :
    Places (sequenceWith enter scope (.ofList parsers)) := by
  induction parsers with
  | nil => exact fun _ placed => placed
  | cons parser rest ih =>
    intro state placed
    have next := places parser (by simp) state placed
    have rest := ih fun parser member => places parser (by simp [member])
    exact bind_cleared_placed next fun _ => (rest (State.cleared _) next).prepend _

theorem chooseWith_placed {alternatives : List (Parser R α)}
    (places : ∀ parser ∈ alternatives, Places (traceWith enter scope parser)) :
    Places (chooseWith enter scope (.ofList alternatives)) := by
  induction alternatives with
  | nil => exact fun state _ => .raised state (fun _ => rfl) (fun _ => rfl)
  | cons parser rest ih =>
    intro state placed
    simp only [Parsers.ofList, chooseWith, Traced.value_bind]
    split
    · exact places parser (by simp) state placed
    · exact ih (fun parser member => places parser (by simp [member])) state placed

theorem traceWith_placed
    (enters : ∀ {α : Type} (address : Address) (rule : R α), Places (enter address rule))
    {parser : Parser R α} (standard : parser.Standard) : Places (traceWith enter scope parser) := by
  induction standard with
  | literal expected =>
    exact fun state placed => placed_unlessFailed placed (matchLiteral_placed _)
  | pattern expected =>
    exact fun state placed => placed_unlessFailed placed (matchPattern_placed _ _)
  | run kind => exact fun state placed => placed_unlessFailed placed (matchPattern_placed _ _)
  | sequence _ ih =>
    exact fun state placed => placed_unlessFailed placed fun _ => sequenceWith_placed ih _ placed
  | choice _ ih =>
    exact fun state placed => placed_unlessFailed placed fun _ => chooseWith_placed ih _ placed
  | many _ ih =>
    exact fun state placed => placed_unlessFailed placed fun _ => repeatFrom_placed ih _ _ placed
  | many1 _ ih =>
    intro state placed
    refine placed_unlessFailed placed fun _ => ?_
    have list := repeatFrom_placed ih (stepBound state) state.cleared placed
    exact list.requireItems (fun _ => rfl) (fun _ => rfl)
  | sepBy _ _ separator value =>
    exact fun state placed =>
      placed_unlessFailed placed fun _ => separateFrom_placed separator value _ _ placed
  | sepBy1 _ _ separator value =>
    intro state placed
    refine placed_unlessFailed placed fun _ => ?_
    have list := separateFrom_placed separator value (stepBound state) state.cleared placed
    exact list.requireItems (fun _ => rfl) (fun _ => rfl)
  | between _ _ _ left right content =>
    intro state placed
    refine placed_unlessFailed placed fun _ => ?_
    have afterLeft := left state.cleared placed
    refine bind_cleared_placed afterLeft fun _ => ?_
    have afterContent := content (State.cleared _) afterLeft
    refine bind_cleared_placed afterContent fun _ => ?_
    have afterRight := right (State.cleared _) afterContent
    exact bind_cleared_placed afterRight fun _ => afterRight
  | lazy cell limit rule =>
    intro state placed
    refine placed_unlessFailed placed fun _ => ?_
    split
    · exact .raised state (fun _ => rfl) (fun _ => rfl)
    · exact enters (cell :: scope) rule _ placed
  | named _ _ ih => exact ih
  | map f _ ih =>
    intro state placed
    have after := ih state.cleared placed
    simp only [traceWith, value_application]
    exact bind_cleared_placed after fun _ => after
  | chain _ _ first second =>
    intro state placed
    have after := first state.cleared placed
    simp only [traceWith, value_application]
    exact bind_cleared_placed after fun _ => second _ _ after
  | errorMap message _ ih =>
    intro state placed
    have after := ih state placed
    simp only [traceWith, value_application, Traced.value_bind]
    split
    next => exact after
    next cause raised => exact after.mapped raised _

theorem traceLevels_placed {grammar : Grammar R} (rules : grammar.Standard) (levels : Nat)
    (scope : Address) {parser : Parser R α} (standard : parser.Standard) :
    Places (traceLevels grammar levels scope parser) := by
  induction levels generalizing α scope with
  | zero => exact fun _ placed => placed
  | succ levels ih =>
    refine traceWith_placed ?_ standard
    intro α address rule state placed
    exact ih address (rules α rule) state placed

/-! ## Failures of choices and loops themselves -/

/-- What a list gathered from a state is: the failure that stopped it, empty on the spot, or a list
with items. -/
inductive Gathered (before : State α) : State α → Prop where
  | stopped {after : State α} : after.failedFatally = true → Gathered before after
  | nothing : Gathered before (before.withResult (.list []))
  | something {after : State α} {item : Output α} {items : List (Output α)} :
      after.failed = false → after.result = .list (item :: items) → Gathered before after

namespace Gathered

/-- A list that is gathered can only fail fatally. -/
theorem running {before after : State α} (gathered : Gathered before after)
    (running : before.failed = false) (calm : after.failedFatally = false) :
    after.failed = false := by
  cases gathered with
  | stopped fatal => exact absurd (calm.symm.trans fatal) (by simp)
  | nothing => exact running
  | something success => exact success

theorem prepend {before middle after : State α} (gathered : Gathered middle after)
    (running : middle.failed = false) (item : Output α) : Gathered before (after.prepend item) := by
  cases gathered with
  | stopped fatal =>
    rw [State.prepend_of_failed item (State.failed_of_failedFatally fatal)]
    exact .stopped fatal
  | nothing =>
    have running : (middle.withResult (.list [] : Output α)).failed = false := running
    rw [State.prepend, if_neg (by simp [running])]
    exact .something running rfl
  | something running result =>
    rw [State.prepend, if_neg (by simp [running]), result]
    exact .something running rfl

/-- If items are required, then their lack is a failure where the list began. -/
theorem requireItems {before after : State α} (gathered : Gathered before after)
    (running : before.failed = false) (raise : Nat → Failure)
    (rejected : (after.requireItems raise).Rejected) :
    after.requireItems raise = before.withError (raise before.position) := by
  cases gathered with
  | stopped fatal =>
    rw [State.requireItems_of_failed raise (State.failed_of_failedFatally fatal)] at rejected
    exact absurd (rejected.2.symm.trans fatal) (by simp)
  | nothing =>
    have running : (before.withResult (.list [] : Output α)).failed = false := running
    rw [State.requireItems, if_pos (by simp [running, Output.isEmpty])]
    rfl
  | something running result =>
    rw [State.requireItems, if_neg (by simp [result, Output.isEmpty])] at rejected
    exact absurd running rejected.not_running

end Gathered

theorem repeatFrom_gathered (step : State α → Traced (State α)) (bound : Nat) (state : State α)
    (running : state.failed = false) : Gathered state (repeatFrom step bound state).value := by
  induction bound generalizing state with
  | zero => exact .nothing
  | succ bound ih =>
    simp only [repeatFrom, Traced.value_bind]
    split
    next fatal => exact .stopped fatal
    next =>
      split
      next => exact .nothing
      next moved =>
        have moved : (step state).value.failed = false := by simpa using moved
        split
        · exact .something moved rfl
        · have others := ih (State.cleared _) moved
          exact others.prepend moved _

theorem separateFrom_gathered (separator : State σ → Traced (State σ))
    (value : State α → Traced (State α)) (bound : Nat) (state : State α)
    (running : state.failed = false) :
    Gathered state (separateFrom separator value bound state).value := by
  induction bound generalizing state with
  | zero => exact .nothing
  | succ bound ih =>
    simp only [separateFrom, Traced.value_bind]
    split
    next fatal => exact .stopped fatal
    next =>
      split
      next => exact .nothing
      next found =>
        have found : (value state).value.failed = false := by simpa using found
        simp only [Traced.value_bind]
        split
        next fatal => exact .stopped fatal
        next =>
          split
          next => exact .something found rfl
          next parted =>
            have parted : (separator (value state).value.cleared).value.failed = false := by
              simpa using parted
            split
            · exact .something parted rfl
            · have others := ih (State.cleared _) parted
              exact others.prepend parted _

theorem chooseWith_rejected {alternatives : List (Parser R α)} {state : State α}
    (rejected : (chooseWith enter scope (.ofList alternatives) state).value.Rejected) :
    (chooseWith enter scope (.ofList alternatives) state).value =
      state.withError (.choiceExhausted state.position) := by
  induction alternatives with
  | nil => rfl
  | cons parser rest ih =>
    by_cases first : (traceWith enter scope parser state).value.Rejected
    · rw [Parsers.ofList, choose_skips first] at rejected ⊢
      exact ih rejected
    · rw [Parsers.ofList, choose_takes first] at rejected
      exact absurd rejected first

/-- The failure that a parser raises itself after its parts, for what it lacks. -/
def ownFailure? : Parser R α → Option (Nat → Failure)
  | .choice _ => some .choiceExhausted
  | .many1 _ => some .emptyRepetition
  | .sepBy1 _ _ => some .emptySeparatedList
  | _ => none

theorem traceWith_rejected {parser : Parser R α} (standard : parser.Standard) {raise : Nat → Failure}
    (own : parser.ownFailure? = some raise) {state : State α} (running : state.failed = false)
    (rejected : (traceWith enter scope parser state).value.Rejected) :
    (traceWith enter scope parser state).value = state.withError (raise state.position) := by
  cases standard with
  | choice _ =>
    obtain rfl : Failure.choiceExhausted = raise := by simpa [ownFailure?] using own
    simp only [traceWith, value_application, value_unlessFailed, running, Bool.false_eq_true,
      if_false] at rejected ⊢
    exact chooseWith_rejected rejected
  | many1 _ =>
    obtain rfl : Failure.emptyRepetition = raise := by simpa [ownFailure?] using own
    simp only [traceWith, value_application, value_unlessFailed, running, Bool.false_eq_true,
      if_false] at rejected ⊢
    exact (repeatFrom_gathered _ _ state.cleared running).requireItems running _ rejected
  | sepBy1 _ _ =>
    obtain rfl : Failure.emptySeparatedList = raise := by simpa [ownFailure?] using own
    simp only [traceWith, value_application, value_unlessFailed, running, Bool.false_eq_true,
      if_false] at rejected ⊢
    exact (separateFrom_gathered _ _ _ state.cleared running).requireItems running _ rejected
  | _ => simp [ownFailure?] at own

/-- A failed parse has no result, and its position is that of every layer of its failure. If the
failure is a choice's or a loop's own, then nothing but the failure is new. -/
theorem apply_fails_in_place {grammar : Grammar R} (rules : grammar.Standard) {parser : Parser R α}
    (standard : parser.Standard) (state : State α) (running : state.failed = false) :
    (∀ failure, (parser.apply grammar state).error = some failure →
        (parser.apply grammar state).result = .empty ∧
          failure.position = (parser.apply grammar state).position ∧
          failure.rootCause.position = (parser.apply grammar state).position ∧
          ∀ layer ∈ failure.layers, layer.position = (parser.apply grammar state).position) ∧
      ∀ raise, parser.ownFailure? = some raise → (parser.apply grammar state).Rejected →
        parser.apply grammar state = state.withError (raise state.position) := by
  constructor
  · intro failure raised
    have failed : (parser.apply grammar state).failed = true := by simp [State.failed, raised]
    have settled := traceLevels_settled rules allLevels [] standard state failed
    have placed := traceLevels_placed rules allLevels [] standard state (.of_running running)
      failure raised
    exact ⟨settled, placed _ failure.mem_layers, placed _ failure.rootCause_mem_layers, placed⟩
  · intro raise own rejected
    exact traceWith_rejected standard own running rejected

end Parser

namespace Brackets

/-- At least one word with a number after it. -/
def numberedWords : Parser Rule String :=
  .many1 (.errorMap (.sequence (.ofList [.letters, .digits])) fun _ _ => "no numbered word")

theorem numberedWords_standard : numberedWords.Standard := by
  refine .many1 (.errorMap _ (.sequence ?_))
  simpa using ⟨.run .letters, .run .digits⟩

/-- The letters before the missing number leave no trace. -/
theorem numberedWords_fails_in_place :
    numberedWords.apply grammar ⟨.place "1ab!" 1, .value "1", none, 0⟩ =
        ⟨.place "1ab!" 1, .empty, some (.emptyRepetition 1), 0⟩ ∧
      (Failure.emptyRepetition 1).position = 1 := by
  let state : State String := ⟨.place "1ab!" 1, .value "1", none, 0⟩
  have rules : grammar.Standard := grammarWithin_standard defaultLimit
  obtain ⟨positions, own⟩ :=
    Parser.apply_fails_in_place rules numberedWords_standard state rfl
  have rejected : (numberedWords.apply grammar state).Rejected := by
    constructor
    · decide +kernel
    · decide +kernel
  have failed := own .emptyRepetition rfl rejected
  exact ⟨failed, (positions _ (by rw [failed]; rfl)).2.1.trans (by rw [failed]; rfl)⟩

end Brackets

end Descent
