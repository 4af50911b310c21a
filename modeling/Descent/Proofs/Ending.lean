import Descent.Proofs.Standard

set_option autoImplicit false

/-!
Every parse ends.

`Parser.Ends` relates a state to the one that a standard parser leaves, with one rule for each way
in which a combinator can end and without any bound to stop at. It holds only where the application
ends, each loop within one step more than bytes remain, and with no more than so many rules entered
at once. `Parser.apply_ends` says that it holds of every application.

The limits of recursive rules can be ignored, so that the same relation tells how a grammar would
parse without them.
-/

namespace Descent

namespace Parser

variable {R : Type → Type} {α β σ l r : Type}

/-- What is still to be done with a state. -/
inductive Task (R : Type → Type) (α : Type) : Type 1 where
  /-- A parser. -/
  | parser (parser : Parser R α)
  /-- The rest of a sequence. -/
  | sequence (rest : Parsers R α)
  /-- The rest of the alternatives. -/
  | choice (rest : Parsers R α)
  /-- A loop, within so many steps. -/
  | loop (steps : Nat) (body : Parser R α)
  /-- Values and separators, within so many rounds. -/
  | rounds {σ : Type} (rounds : Nat) (separator : Parser R σ) (value : Parser R α)

/-- Whether a parser leaves a failed state alone, so that no part of it is applied. -/
def skipsFailed : Parser R α → Bool
  | .named _ _ | .map _ _ | .chain _ _ | .errorMap _ _ | .custom _ _ => false
  | _ => true

/-- How tasks are carried out. -/
structure Conditions (R : Type → Type) : Type 1 where
  grammar : Grammar R
  /-- Whether the limits of rules count. -/
  limited : Bool
  /-- The number of rules that may be entered at once. -/
  most : Nat

/-- A task ends, while so many rules are entered, and takes one state to another. -/
inductive Ends (under : Conditions R) :
    {α : Type} → (active : Nat) → Task R α → State α → State α → Prop where
  | skipped {α : Type} {active : Nat} {parser : Parser R α} {state : State α} :
      parser.skipsFailed = true → state.failed = true →
      Ends under active (.parser parser) state state.cleared
  | literal {active : Nat} {expected : String} {state : State String} :
      state.failed = false →
      Ends under active (.parser (.literal expected)) state (matchLiteral expected state).value
  | pattern {active : Nat} {expected : Pattern} {state : State String} :
      state.failed = false →
      Ends under active (.parser (.pattern expected)) state
        (matchPattern expected.source expected.matchLength? state).value
  | run {active : Nat} {kind : CharRun} {state : State String} :
      state.failed = false →
      Ends under active (.parser (.run kind)) state
        (matchPattern kind.source kind.matchLength? state).value
  | sequence {α : Type} {active : Nat} {parsers : Parsers R α} {state after : State α} :
      state.failed = false →
      Ends under active (.sequence parsers) state.cleared after →
      Ends under active (.parser (.sequence parsers)) state after
  | sequenceNil {α : Type} {active : Nat} {state : State α} :
      Ends under active (.sequence .nil) state (state.withResult (.list []))
  | sequenceFails {α : Type} {active : Nat} {parser : Parser R α} {rest : Parsers R α}
      {state next : State α} :
      Ends under active (.parser parser) state next → next.failed = true →
      Ends under active (.sequence (.cons parser rest)) state next.cleared
  | sequenceGoesOn {α : Type} {active : Nat} {parser : Parser R α} {rest : Parsers R α}
      {state next after : State α} :
      Ends under active (.parser parser) state next → next.failed = false →
      Ends under active (.sequence rest) next.cleared after →
      Ends under active (.sequence (.cons parser rest)) state (after.prepend next.result)
  | choice {α : Type} {active : Nat} {alternatives : Parsers R α} {state after : State α} :
      state.failed = false →
      Ends under active (.choice alternatives) state after →
      Ends under active (.parser (.choice alternatives)) state after
  | choiceNil {α : Type} {active : Nat} {state : State α} :
      Ends under active (.choice .nil) state (state.withError (.choiceExhausted state.position))
  | choiceTakes {α : Type} {active : Nat} {parser : Parser R α} {rest : Parsers R α}
      {state next : State α} :
      Ends under active (.parser parser) state next →
      (!next.failed || next.failedFatally) = true →
      Ends under active (.choice (.cons parser rest)) state next
  | choiceGoesOn {α : Type} {active : Nat} {parser : Parser R α} {rest : Parsers R α}
      {state next after : State α} :
      Ends under active (.parser parser) state next →
      (!next.failed || next.failedFatally) = false →
      Ends under active (.choice rest) state after →
      Ends under active (.choice (.cons parser rest)) state after
  | many {α : Type} {active : Nat} {body : Parser R α} {state after : State α} :
      state.failed = false →
      Ends under active (.loop (Text.byteLength state.rest + 1) body) state.cleared after →
      Ends under active (.parser (.many body)) state after
  | many1 {α : Type} {active : Nat} {body : Parser R α} {state after : State α} :
      state.failed = false →
      Ends under active (.loop (Text.byteLength state.rest + 1) body) state.cleared after →
      Ends under active (.parser (.many1 body)) state (after.requireItems .emptyRepetition)
  | loopFatal {α : Type} {active steps : Nat} {body : Parser R α} {state next : State α} :
      Ends under active (.parser body) state next → next.failedFatally = true →
      Ends under active (.loop (steps + 1) body) state next.cleared
  | loopFails {α : Type} {active steps : Nat} {body : Parser R α} {state next : State α} :
      Ends under active (.parser body) state next → next.failedFatally = false →
      next.failed = true →
      Ends under active (.loop (steps + 1) body) state (state.withResult (.list []))
  | loopStalls {α : Type} {active steps : Nat} {body : Parser R α} {state next : State α} :
      Ends under active (.parser body) state next → next.failed = false →
      next.position = state.position →
      Ends under active (.loop (steps + 1) body) state (next.withResult (.list [next.result]))
  | loopGoesOn {α : Type} {active steps : Nat} {body : Parser R α} {state next after : State α} :
      Ends under active (.parser body) state next → next.failed = false →
      next.position ≠ state.position →
      Ends under active (.loop steps body) next.cleared after →
      Ends under active (.loop (steps + 1) body) state (after.prepend next.result)
  | sepBy {σ α : Type} {active : Nat} {separator : Parser R σ} {value : Parser R α}
      {state after : State α} :
      state.failed = false →
      Ends under active (.rounds (Text.byteLength state.rest + 1) separator value)
        state.cleared after →
      Ends under active (.parser (.sepBy separator value)) state after
  | sepBy1 {σ α : Type} {active : Nat} {separator : Parser R σ} {value : Parser R α}
      {state after : State α} :
      state.failed = false →
      Ends under active (.rounds (Text.byteLength state.rest + 1) separator value)
        state.cleared after →
      Ends under active (.parser (.sepBy1 separator value)) state
        (after.requireItems .emptySeparatedList)
  | valueFatal {σ α : Type} {active rounds : Nat} {separator : Parser R σ} {value : Parser R α}
      {state next : State α} :
      Ends under active (.parser value) state next → next.failedFatally = true →
      Ends under active (.rounds (rounds + 1) separator value) state next.cleared
  | valueFails {σ α : Type} {active rounds : Nat} {separator : Parser R σ} {value : Parser R α}
      {state next : State α} :
      Ends under active (.parser value) state next → next.failedFatally = false →
      next.failed = true →
      Ends under active (.rounds (rounds + 1) separator value) state (state.withResult (.list []))
  | separatorFatal {σ α : Type} {active rounds : Nat} {separator : Parser R σ} {value : Parser R α}
      {state next : State α} {following : State σ} :
      Ends under active (.parser value) state next → next.failed = false →
      Ends under active (.parser separator) next.cleared following →
      following.failedFatally = true →
      Ends under active (.rounds (rounds + 1) separator value) state following.cleared
  | separatorFails {σ α : Type} {active rounds : Nat} {separator : Parser R σ} {value : Parser R α}
      {state next : State α} {following : State σ} :
      Ends under active (.parser value) state next → next.failed = false →
      Ends under active (.parser separator) next.cleared following →
      following.failedFatally = false → following.failed = true →
      Ends under active (.rounds (rounds + 1) separator value) state
        (next.withResult (.list [next.result]))
  | roundStalls {σ α : Type} {active rounds : Nat} {separator : Parser R σ} {value : Parser R α}
      {state next : State α} {following : State σ} :
      Ends under active (.parser value) state next → next.failed = false →
      Ends under active (.parser separator) next.cleared following →
      following.failed = false → following.position = state.position →
      Ends under active (.rounds (rounds + 1) separator value) state
        (following.withResult (.list [next.result]))
  | roundGoesOn {σ α : Type} {active rounds : Nat} {separator : Parser R σ} {value : Parser R α}
      {state next after : State α} {following : State σ} :
      Ends under active (.parser value) state next → next.failed = false →
      Ends under active (.parser separator) next.cleared following →
      following.failed = false → following.position ≠ state.position →
      Ends under active (.rounds rounds separator value) following.cleared after →
      Ends under active (.rounds (rounds + 1) separator value) state (after.prepend next.result)
  | leftFails {l r α : Type} {active : Nat} {left : Parser R l} {right : Parser R r}
      {content : Parser R α} {state : State α} {opened : State l} :
      state.failed = false →
      Ends under active (.parser left) state.cleared opened →
      opened.failed = true →
      Ends under active (.parser (.between left right content)) state opened.cleared
  | contentFails {l r α : Type} {active : Nat} {left : Parser R l} {right : Parser R r}
      {content : Parser R α} {state filled : State α} {opened : State l} :
      state.failed = false →
      Ends under active (.parser left) state.cleared opened →
      opened.failed = false →
      Ends under active (.parser content) opened.cleared filled →
      filled.failed = true →
      Ends under active (.parser (.between left right content)) state filled.cleared
  | rightFails {l r α : Type} {active : Nat} {left : Parser R l} {right : Parser R r}
      {content : Parser R α} {state filled : State α} {opened : State l} {closed : State r} :
      state.failed = false →
      Ends under active (.parser left) state.cleared opened →
      opened.failed = false →
      Ends under active (.parser content) opened.cleared filled →
      filled.failed = false →
      Ends under active (.parser right) filled.cleared closed →
      closed.failed = true →
      Ends under active (.parser (.between left right content)) state closed.cleared
  | between {l r α : Type} {active : Nat} {left : Parser R l} {right : Parser R r}
      {content : Parser R α} {state filled : State α} {opened : State l} {closed : State r} :
      state.failed = false →
      Ends under active (.parser left) state.cleared opened →
      opened.failed = false →
      Ends under active (.parser content) opened.cleared filled →
      filled.failed = false →
      Ends under active (.parser right) filled.cleared closed →
      closed.failed = false →
      Ends under active (.parser (.between left right content)) state
        (closed.withResult filled.result)
  | refused {α : Type} {active cell : Nat} {limit : UInt64} {rule : R α} {state : State α} :
      state.failed = false → under.limited = true → limit.toNat ≤ state.depth →
      Ends under active (.parser (.lazy cell limit rule)) state
        (state.withError (.nestingTooDeep limit.toNat state.position))
  | lazy {α : Type} {active cell : Nat} {limit : UInt64} {rule : R α} {state after : State α} :
      state.failed = false → (under.limited = true → state.depth < limit.toNat) → active < under.most →
      Ends under (active + 1) (.parser (under.grammar α rule))
        (state.cleared.atDepth (state.depth + 1)) after →
      Ends under active (.parser (.lazy cell limit rule)) state (after.atDepth state.depth)
  | named {α : Type} {active : Nat} {name : String} {parser : Parser R α} {state after : State α} :
      Ends under active (.parser parser) state after →
      Ends under active (.parser (.named name parser)) state after
  | mapFails {α β : Type} {active : Nat} {parser : Parser R α} {f : Output α → Output β}
      {state : State β} {next : State α} :
      Ends under active (.parser parser) state.cleared next → next.failed = true →
      Ends under active (.parser (.map parser f)) state next.cleared
  | map {α β : Type} {active : Nat} {parser : Parser R α} {f : Output α → Output β}
      {state : State β} {next : State α} :
      Ends under active (.parser parser) state.cleared next → next.failed = false →
      Ends under active (.parser (.map parser f)) state (next.withResult (f next.result))
  | chainFails {α β : Type} {active : Nat} {parser : Parser R α} {next : Output α → Parser R β}
      {state : State β} {first : State α} :
      Ends under active (.parser parser) state.cleared first →
      first.failed = true →
      Ends under active (.parser (.chain parser next)) state first.cleared
  | chain {α β : Type} {active : Nat} {parser : Parser R α} {next : Output α → Parser R β}
      {state after : State β} {first : State α} :
      Ends under active (.parser parser) state.cleared first →
      first.failed = false →
      Ends under active (.parser (next first.result)) first.cleared after →
      Ends under active (.parser (.chain parser next)) state after
  | errorMapPasses {α : Type} {active : Nat} {parser : Parser R α}
      {message : Failure → Nat → String} {state after : State α} :
      Ends under active (.parser parser) state after → after.error = none →
      Ends under active (.parser (.errorMap parser message)) state after
  | errorMap {α : Type} {active : Nat} {parser : Parser R α} {message : Failure → Nat → String}
      {state after : State α} {cause : Failure} :
      Ends under active (.parser parser) state after → after.error = some cause →
      Ends under active (.parser (.errorMap parser message)) state
        (after.withError (.mapped (message cause after.position) after.position cause))

mutual

/-- No limit within a parser lies above the given one. -/
def LimitsWithin {R : Type → Type} {α : Type} (largest : UInt64) : Parser R α → Prop
  | .literal _ | .pattern _ | .run _ => True
  | .sequence parsers | .choice parsers => AllLimitsWithin largest parsers
  | .many body | .many1 body => body.LimitsWithin largest
  | .sepBy separator value | .sepBy1 separator value =>
    separator.LimitsWithin largest ∧ value.LimitsWithin largest
  | .between left right content =>
    left.LimitsWithin largest ∧ right.LimitsWithin largest ∧ content.LimitsWithin largest
  | .lazy _ limit _ => limit ≤ largest
  | .named _ parser | .map parser _ | .errorMap parser _ => parser.LimitsWithin largest
  | .chain parser next =>
    parser.LimitsWithin largest ∧ ∀ output, (next output).LimitsWithin largest
  | .custom _ steps => StepLimitsWithin largest steps

/-- No limit within several parsers lies above the given one. -/
def AllLimitsWithin {R : Type → Type} {α : Type} (largest : UInt64) : Parsers R α → Prop
  | .nil => True
  | .cons parser rest => parser.LimitsWithin largest ∧ AllLimitsWithin largest rest

/-- No limit within the parsers of some steps lies above the given one. -/
def StepLimitsWithin {R : Type → Type} {α : Type} (largest : UInt64) : Steps R α → Prop
  | .done => True
  | .move _ rest => StepLimitsWithin largest rest
  | .apply _ parser rest => parser.LimitsWithin largest ∧ StepLimitsWithin largest rest

end

@[simp] theorem allLimitsWithin_ofList {largest : UInt64} {parsers : List (Parser R α)} :
    AllLimitsWithin largest (.ofList parsers) ↔
      ∀ parser ∈ parsers, parser.LimitsWithin largest := by
  induction parsers with
  | nil => simp [Parsers.ofList, AllLimitsWithin]
  | cons parser rest ih => simp [Parsers.ofList, AllLimitsWithin, ih]

/-- No limit lies above the largest number of 64 bits. -/
theorem Standard.limitsWithin {parser : Parser R α} (standard : parser.Standard) :
    parser.LimitsWithin (.ofNat (UInt64.size - 1)) := by
  induction standard with
  | literal _ | pattern _ | run _ => trivial
  | sequence _ ih | choice _ ih => exact allLimitsWithin_ofList.mpr ih
  | many _ ih | many1 _ ih | named _ _ ih | map _ _ ih | errorMap _ _ ih => exact ih
  | sepBy _ _ separator value | sepBy1 _ _ separator value => exact ⟨separator, value⟩
  | between _ _ _ left right content => exact ⟨left, right, content⟩
  | lazy _ limit _ =>
    have bounded := limit.toNat_lt
    exact UInt64.le_iff_toNat_le.mpr (Nat.le_of_lt_succ bounded)
  | chain _ _ first second => exact ⟨first, second⟩

variable {under : Conditions R}

/-- The outcome does not show that a limit counts. -/
def Conditions.Tolerates (under : Conditions R) (after : State α) : Prop :=
  under.limited = true ∨ after.failedFatally = false

theorem Conditions.tolerates_of_running {after : State α} (running : after.failed = false) :
    under.Tolerates after := .inr (State.failedFatally_of_running running)

theorem Conditions.tolerates_of_prepend {item : Output α} {after : State α}
    (tolerated : under.Tolerates (after.prepend item)) : under.Tolerates after := by
  cases failed : after.failed with
  | false => exact tolerates_of_running failed
  | true => rwa [State.prepend_of_failed item failed] at tolerated

theorem Conditions.tolerates_of_requireItems {failure : Nat → Failure} {after : State α}
    (tolerated : under.Tolerates (after.requireItems failure)) : under.Tolerates after := by
  cases failed : after.failed with
  | false => exact tolerates_of_running failed
  | true => rwa [State.requireItems_of_failed failure failed] at tolerated

section Parts

variable {first : Traced (State α)} {next other : State α → Traced (State β)} {ended : Prop}
  {motive : State β → Prop}

/-- A part ends, and so does what follows it, if its failure is that of the whole. -/
theorem bind_cleared_ends (ends : under.Tolerates first.value → ended)
    (fails : ended → first.value.failed = true → motive first.value.cleared)
    (goesOn : ended → first.value.failed = false → under.Tolerates (next first.value).value →
      motive (next first.value).value)
    (tolerated : under.Tolerates (do
      let after ← first
      if after.failed then return after.cleared else next after).value) :
    motive (do
      let after ← first
      if after.failed then return after.cleared else next after).value := by
  rw [Traced.value_bind] at tolerated ⊢
  by_cases failed : first.value.failed = true
  · rw [if_pos failed] at tolerated ⊢
    exact fails (ends tolerated) failed
  · rw [if_neg failed] at tolerated ⊢
    have running : first.value.failed = false := by simpa using failed
    exact goesOn (ends (Conditions.tolerates_of_running running)) running tolerated

/-- A part ends, and so does what follows it, if it is recovered from unless it fails fatally. -/
theorem bind_calm_ends (ends : under.Tolerates first.value → ended)
    (fatal : ended → first.value.failedFatally = true → motive first.value.cleared)
    (fails : ended → first.value.failedFatally = false → first.value.failed = true →
      motive (other first.value).value)
    (goesOn : ended → first.value.failed = false → under.Tolerates (next first.value).value →
      motive (next first.value).value)
    (tolerated : under.Tolerates (do
      let after ← first
      if after.failedFatally then return after.cleared
      else if after.failed then other after else next after).value) :
    motive (do
      let after ← first
      if after.failedFatally then return after.cleared
      else if after.failed then other after else next after).value := by
  rw [Traced.value_bind] at tolerated ⊢
  by_cases stops : first.value.failedFatally = true
  · rw [if_pos stops] at tolerated ⊢
    exact fatal (ends tolerated) stops
  · rw [if_neg stops] at tolerated ⊢
    have calm : first.value.failedFatally = false := by simpa using stops
    by_cases failed : first.value.failed = true
    · rw [if_pos failed]
      exact fails (ends (.inr calm)) calm failed
    · rw [if_neg failed] at tolerated ⊢
      exact goesOn (ends (.inr calm)) (by simpa using failed) tolerated

end Parts

/-- A loop ends once no bytes remain, at the latest. -/
theorem repeatFrom_ends {active depth : Nat} {body : Parser R α}
    {step : State α → Traced (State α)}
    (forward : ∀ state : State α, state.Advances (step state).value)
    (ends : ∀ state : State α, state.depth = depth → under.Tolerates (step state).value →
      Ends under active (.parser body) state (step state).value)
    {bound steps : Nat} {state : State α} (same : state.depth = depth)
    (bounded : Text.byteLength state.rest < bound) (room : Text.byteLength state.rest < steps)
    (tolerated : under.Tolerates (repeatFrom step bound state).value) :
    Ends under active (.loop steps body) state (repeatFrom step bound state).value := by
  induction bound generalizing steps state with
  | zero => omega
  | succ bound ih =>
    obtain ⟨steps, rfl⟩ : ∃ fewer, steps = fewer + 1 := ⟨steps - 1, by omega⟩
    refine bind_calm_ends (ends state same) .loopFatal .loopFails ?_ tolerated
    intro ended running tolerated
    have moved := forward state
    revert tolerated
    generalize (step state).value = next at *
    split
    next stalled =>
      intro _
      exact .loopStalls ended running stalled
    next ahead =>
      intro tolerated
      have consumed := moved.position_add
      have started := moved.position_le
      -- A round that consumed a byte pays for itself, so that the stalled one is left over.
      refine .loopGoesOn ended running ahead (ih ?_ ?_ ?_ ?_)
      · exact moved.2.trans same
      · change Text.byteLength next.rest < bound
        omega
      · change Text.byteLength next.rest < steps
        omega
      · exact Conditions.tolerates_of_prepend tolerated

/-- Rounds end once no bytes remain, at the latest. -/
theorem separateFrom_ends {active depth : Nat} {separatorParser : Parser R σ}
    {valueParser : Parser R α} {separator : State σ → Traced (State σ)}
    {value : State α → Traced (State α)}
    (separatorForward : ∀ state : State σ, state.Advances (separator state).value)
    (valueForward : ∀ state : State α, state.Advances (value state).value)
    (separatorEnds : ∀ state : State σ, state.depth = depth →
      under.Tolerates (separator state).value →
      Ends under active (.parser separatorParser) state (separator state).value)
    (valueEnds : ∀ state : State α, state.depth = depth → under.Tolerates (value state).value →
      Ends under active (.parser valueParser) state (value state).value)
    {bound rounds : Nat} {state : State α} (same : state.depth = depth)
    (bounded : Text.byteLength state.rest < bound) (room : Text.byteLength state.rest < rounds)
    (tolerated : under.Tolerates (separateFrom separator value bound state).value) :
    Ends under active (.rounds rounds separatorParser valueParser) state
      (separateFrom separator value bound state).value := by
  induction bound generalizing rounds state with
  | zero => omega
  | succ bound ih =>
    obtain ⟨rounds, rfl⟩ : ∃ fewer, rounds = fewer + 1 := ⟨rounds - 1, by omega⟩
    refine bind_calm_ends (valueEnds state same) .valueFatal .valueFails ?_ tolerated
    intro ended running tolerated
    have moved := valueForward state
    generalize (value state).value = next at *
    refine bind_calm_ends (separatorEnds next.cleared (moved.2.trans same))
      (.separatorFatal ended running) (.separatorFails ended running) ?_ tolerated
    intro separated running' tolerated
    have moved := moved.cleared.trans (separatorForward next.cleared)
    revert tolerated
    generalize (separator next.cleared).value = following at *
    split
    next stalled =>
      intro _
      exact .roundStalls ended running separated running' stalled
    next ahead =>
      intro tolerated
      have consumed := moved.position_add
      have started := moved.position_le
      refine .roundGoesOn ended running separated running' ahead (ih ?_ ?_ ?_ ?_)
      · exact moved.2.trans same
      · change Text.byteLength following.rest < bound
        omega
      · change Text.byteLength following.rest < rounds
        omega
      · exact Conditions.tolerates_of_prepend tolerated

variable {enter : Enter R} {scope : Address}

theorem sequenceWith_ends {active depth : Nat} {parsers : List (Parser R α)}
    (forward : ∀ parser ∈ parsers, ∀ state : State α,
      state.Advances (traceWith enter scope parser state).value)
    (ends : ∀ parser ∈ parsers, ∀ state : State α, state.depth = depth →
      under.Tolerates (traceWith enter scope parser state).value →
      Ends under active (.parser parser) state (traceWith enter scope parser state).value)
    {state : State α} (same : state.depth = depth)
    (tolerated : under.Tolerates (sequenceWith enter scope (.ofList parsers) state).value) :
    Ends under active (.sequence (.ofList parsers)) state
      (sequenceWith enter scope (.ofList parsers) state).value := by
  induction parsers generalizing state with
  | nil => exact .sequenceNil
  | cons parser rest ih =>
    have moved := forward parser (by simp) state
    refine bind_cleared_ends (ends parser (by simp) state same) .sequenceFails ?_ tolerated
    intro ended running tolerated
    refine .sequenceGoesOn ended running (ih ?_ ?_ ?_ ?_)
    · exact fun parser member => forward parser (by simp [member])
    · exact fun parser member => ends parser (by simp [member])
    · exact moved.2.trans same
    · exact Conditions.tolerates_of_prepend tolerated

theorem chooseWith_ends {active depth : Nat} {alternatives : List (Parser R α)}
    (ends : ∀ parser ∈ alternatives, ∀ state : State α, state.depth = depth →
      under.Tolerates (traceWith enter scope parser state).value →
      Ends under active (.parser parser) state (traceWith enter scope parser state).value)
    {state : State α} (same : state.depth = depth)
    (tolerated : under.Tolerates (chooseWith enter scope (.ofList alternatives) state).value) :
    Ends under active (.choice (.ofList alternatives)) state
      (chooseWith enter scope (.ofList alternatives) state).value := by
  induction alternatives with
  | nil => exact .choiceNil
  | cons parser rest ih =>
    have parserEnds := ends parser (by simp) state same
    revert tolerated
    simp only [Parsers.ofList, chooseWith, Traced.value_bind]
    generalize (traceWith enter scope parser state).value = next at *
    split
    next taken =>
      intro tolerated
      exact .choiceTakes (parserEnds tolerated) taken
    next rejected =>
      intro tolerated
      have rejected : (!next.failed || next.failedFatally) = false := by simpa using rejected
      have calm : next.failedFatally = false := by
        revert rejected
        cases next.failedFatally <;> simp
      refine .choiceGoesOn (parserEnds (.inr calm)) rejected (ih ?_ tolerated)
      exact fun parser member => ends parser (by simp [member])

theorem ends_unlessFailed {active : Nat} {parser : Parser R α} {state : State α}
    {work : Traced (State α)} (skips : parser.skipsFailed = true)
    (ends : state.failed = false → under.Tolerates work.value →
      Ends under active (.parser parser) state work.value)
    (tolerated : under.Tolerates (application state (unlessFailed state work)).value) :
    Ends under active (.parser parser) state (application state (unlessFailed state work)).value := by
  revert tolerated
  rw [value_application, value_unlessFailed]
  split
  next failed =>
    intro _
    exact .skipped skips failed
  next running =>
    exact ends (by simpa using running)

theorem traceWith_ends {active depth : Nat} {largest : UInt64}
    (room : active + largest.toNat ≤ under.most + depth)
    (forward : ∀ {α : Type} (address : Address) (rule : R α) (state : State α),
      state.Advances (enter address rule state).value)
    (enters : depth < largest.toNat → ∀ {α : Type} (address : Address) (rule : R α)
      (state : State α), state.depth = depth + 1 →
      under.Tolerates (enter address rule state).value →
      Ends under (active + 1) (.parser (under.grammar α rule)) state
        (enter address rule state).value)
    {parser : Parser R α} (standard : parser.Standard) (within : parser.LimitsWithin largest)
    (state : State α) (same : state.depth = depth)
    (tolerated : under.Tolerates (traceWith enter scope parser state).value) :
    Ends under active (.parser parser) state (traceWith enter scope parser state).value := by
  induction standard with
  | literal expected => exact ends_unlessFailed rfl (fun running _ => .literal running) tolerated
  | pattern expected => exact ends_unlessFailed rfl (fun running _ => .pattern running) tolerated
  | run kind => exact ends_unlessFailed rfl (fun running _ => .run running) tolerated
  | sequence standard ih =>
    refine ends_unlessFailed rfl (fun running tolerated => .sequence running ?_) tolerated
    refine sequenceWith_ends ?_ ?_ same tolerated
    · exact fun parser member => traceWith_advances forward scope (standard parser member)
    · exact fun parser member => ih parser member (allLimitsWithin_ofList.mp within parser member)
  | choice standard ih =>
    refine ends_unlessFailed rfl (fun running tolerated => .choice running ?_) tolerated
    refine chooseWith_ends ?_ same tolerated
    exact fun parser member => ih parser member (allLimitsWithin_ofList.mp within parser member)
  | many standard ih =>
    refine ends_unlessFailed rfl (fun running tolerated => .many running ?_) tolerated
    exact repeatFrom_ends (traceWith_advances forward scope standard) (ih within) same
      (byteLength_rest_lt_stepBound state) (Nat.lt_succ_self _) tolerated
  | many1 standard ih =>
    refine ends_unlessFailed rfl (fun running tolerated => .many1 running ?_) tolerated
    exact repeatFrom_ends (traceWith_advances forward scope standard) (ih within) same
      (byteLength_rest_lt_stepBound state) (Nat.lt_succ_self _)
      (Conditions.tolerates_of_requireItems tolerated)
  | sepBy separatorStandard valueStandard separator value =>
    refine ends_unlessFailed rfl (fun running tolerated => .sepBy running ?_) tolerated
    exact separateFrom_ends (traceWith_advances forward scope separatorStandard)
      (traceWith_advances forward scope valueStandard) (separator within.1) (value within.2) same
      (byteLength_rest_lt_stepBound state) (Nat.lt_succ_self _) tolerated
  | sepBy1 separatorStandard valueStandard separator value =>
    refine ends_unlessFailed rfl (fun running tolerated => .sepBy1 running ?_) tolerated
    exact separateFrom_ends (traceWith_advances forward scope separatorStandard)
      (traceWith_advances forward scope valueStandard) (separator within.1) (value within.2) same
      (byteLength_rest_lt_stepBound state) (Nat.lt_succ_self _)
      (Conditions.tolerates_of_requireItems tolerated)
  | between leftStandard _ contentStandard left right content =>
    refine ends_unlessFailed rfl (fun running tolerated => ?_) tolerated
    have opening := traceWith_advances forward scope leftStandard state.cleared
    refine bind_cleared_ends (left within.1 state.cleared same) (.leftFails running) ?_ tolerated
    intro left opens tolerated
    have filling := opening.cleared.trans (traceWith_advances forward scope contentStandard _)
    refine bind_cleared_ends (content within.2.2 (State.cleared _) (opening.2.trans same))
      (.contentFails running left opens) ?_ tolerated
    intro content fills tolerated
    refine bind_cleared_ends (right within.2.1 (State.cleared _) (filling.2.trans same))
      (.rightFails running left opens content fills) ?_ tolerated
    intro right closes _
    exact .between running left opens content fills right closes
  | lazy cell limit rule =>
    refine ends_unlessFailed rfl (fun running tolerated => ?_) tolerated
    revert tolerated
    split
    next deep =>
      intro tolerated
      refine .refused running ?_ deep
      exact tolerated.resolve_right (by simp [State.failedFatally, Failure.isFatal,
        Failure.rootCause, Failure.isNesting])
    next admitted =>
      intro tolerated
      have limited : limit.toNat ≤ largest.toNat := within
      -- As many rules become active as become open, and those open stay below the limit.
      refine .lazy running (fun _ => by omega) (by omega) ?_
      exact enters (by omega) _ rule _ (by rw [← same]; rfl) tolerated
  | named _ _ ih => exact .named (ih within state same tolerated)
  | map f _ ih =>
    simp only [traceWith, value_application] at tolerated ⊢
    refine bind_cleared_ends (ih within state.cleared same) .mapFails ?_ tolerated
    intro ended running _
    exact .map ended running
  | chain standard _ first second =>
    have moved := traceWith_advances forward scope standard state.cleared
    simp only [traceWith, value_application] at tolerated ⊢
    refine bind_cleared_ends (first within.1 state.cleared same) .chainFails ?_ tolerated
    intro ended running tolerated
    exact .chain ended running (second _ (within.2 _) _ (moved.2.trans same) tolerated)
  | errorMap message _ ih =>
    have inner := ih within state same
    revert tolerated
    simp only [traceWith, value_application, Traced.value_bind]
    generalize (traceWith enter scope _ state).value = after at *
    split
    next none =>
      intro tolerated
      exact .errorMapPasses (inner tolerated) none
    next cause error =>
      intro tolerated
      refine .errorMap (inner ?_) error
      simpa [Conditions.Tolerates, State.failedFatally, error] using tolerated

/-- A task that ends takes a state to one other alone, whatever may be entered at once. -/
theorem Ends.unique {grammar : Grammar R} {limited : Bool} {most most' active active' : Nat}
    {task : Task R α} {state first second : State α}
    (one : Ends ⟨grammar, limited, most⟩ active task state first)
    (two : Ends ⟨grammar, limited, most'⟩ active' task state second) : first = second := by
  induction one generalizing active' with
  -- The premises of one rule exclude those of every other, once the outcomes of the parts agree.
  | _ => cases two <;> grind [State.failedFatally_of_running, skipsFailed]

theorem traceLevels_ends {grammar : Grammar R} {limited : Bool} {most active depth levels : Nat}
    {largest : UInt64} (rules : grammar.Standard)
    (rulesWithin : ∀ (α : Type) (rule : R α), (grammar α rule).LimitsWithin largest)
    (enough : largest.toNat ≤ levels + depth) (room : active + largest.toNat ≤ most + depth)
    (scope : Address) {parser : Parser R α} (standard : parser.Standard)
    (within : parser.LimitsWithin largest) {state : State α} (same : state.depth = depth)
    (tolerated : Conditions.Tolerates ⟨grammar, limited, most⟩
      (traceLevels grammar (levels + 1) scope parser state).value) :
    Ends ⟨grammar, limited, most⟩ active (.parser parser) state
      (traceLevels grammar (levels + 1) scope parser state).value := by
  have forward (levels : Nat) : ∀ {α : Type} (address : Address) (rule : R α) (state : State α),
      state.Advances (enterBody grammar levels address rule state).value :=
    fun address rule => traceLevels_advances rules levels address (rules _ rule)
  -- Each level is one more open rule, so that the levels last until no limit admits another.
  induction levels generalizing active depth α scope with
  | zero =>
    refine traceWith_ends room (forward 0) ?_ standard within state same tolerated
    intro deeper
    omega
  | succ levels ih =>
    refine traceWith_ends room (forward _) ?_ standard within state same tolerated
    intro deeper α address rule state inside tolerated
    exact ih (by omega) (by omega) address (rules α rule) (rulesWithin α rule) inside tolerated

theorem apply_ends_within {grammar : Grammar R} {limited : Bool} {most : Nat} {largest : UInt64}
    (rules : grammar.Standard)
    (rulesWithin : ∀ (α : Type) (rule : R α), (grammar α rule).LimitsWithin largest)
    {parser : Parser R α} (standard : parser.Standard) (within : parser.LimitsWithin largest)
    {state : State α} (room : largest.toNat ≤ most + state.depth)
    (tolerated : limited = true ∨ (parser.apply grammar state).failedFatally = false) :
    Ends ⟨grammar, limited, most⟩ 0 (.parser parser) state (parser.apply grammar state) := by
  have bounded := largest.toNat_lt
  have enough : largest.toNat ≤ UInt64.size - 1 + state.depth := by
    change _ < UInt64.size at bounded
    omega
  exact traceLevels_ends rules rulesWithin enough (by omega) [] standard within rfl tolerated

/-- Every parse ends, each loop within one step more than bytes remain. If no limit lies above the
given one, no more rules are entered at once than there were still open to it. -/
theorem apply_ends {grammar : Grammar R} (rules : grammar.Standard) {parser : Parser R α}
    (standard : parser.Standard) (state : State α) :
    (∃ most, Ends ⟨grammar, true, most⟩ 0 (.parser parser) state (parser.apply grammar state)) ∧
      ∀ largest : UInt64, parser.LimitsWithin largest →
        (∀ (α : Type) (rule : R α), (grammar α rule).LimitsWithin largest) →
        Ends ⟨grammar, true, largest.toNat - state.depth⟩ 0 (.parser parser) state
          (parser.apply grammar state) := by
  constructor
  · have rulesWithin := fun (α : Type) (rule : R α) => (rules α rule).limitsWithin
    exact ⟨_, apply_ends_within rules rulesWithin standard standard.limitsWithin
      (Nat.le_add_right _ _) (.inl rfl)⟩
  · intro largest within rulesWithin
    exact apply_ends_within rules rulesWithin standard within (by omega) (.inl rfl)

open Brackets

/-- A word whose rule begins with itself, within a limit of three. -/
theorem leftRecursiveWords_ends :
    Ends ⟨leftRecursive 3, true, 3⟩ 0 (.parser (leftRecursiveWords 3)) (.start "a")
      ((leftRecursiveWords 3).apply (leftRecursive 3) (.start "a")) := by
  refine (apply_ends (leftRecursive_standard 3) (leftRecursiveWords_standard 3) (.start "a")).2 3
    ?_ ?_
  · simp [leftRecursiveWords, letters, LimitsWithin]
  · intro α rule
    cases rule
    simp [leftRecursive, letters, LimitsWithin]

end Parser

end Descent
