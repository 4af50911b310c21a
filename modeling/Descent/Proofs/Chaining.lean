import Descent.Proofs.Separation

set_option autoImplicit false

/-!
Laws of map and chain.

Both apply a part and go on with its result unless it has failed. Going on is associative
(`State.followedBy_assoc`): that is why maps compose and why chains may be grouped either way,
whatever the parts are. `Parser.yielding` only gives a result and is neutral on both sides of a
chain. For that the parts have to be standard, since a chain starts its parts without a result and
passes a failure on without one, which must be no loss.
-/

namespace Descent

namespace State

variable {α β γ : Type}

theorem followedBy_withResult (state : State α) (result : Output β) (next : State β → State γ) :
    (state.withResult result).followedBy next =
      state.followedBy fun after => next (after.withResult result) := rfl

theorem followedBy_cleared (state : State α) (next : State β → State γ) :
    (state.cleared : State β).followedBy next = state.followedBy fun after => next after.cleared :=
  followedBy_withResult state .empty next

theorem followedBy_assoc (state : State α) (next : State α → State β) (last : State β → State γ) :
    (state.followedBy next).followedBy last =
      state.followedBy fun after => (next after).followedBy last := by
  cases failed : state.failed with
  | true =>
    have stopped : (state.cleared : State β).failed = true := failed
    rw [followedBy_of_failed failed, followedBy_of_failed failed, followedBy_of_failed stopped,
      cleared_cleared]
  | false => rw [followedBy_of_running failed, followedBy_of_running failed]

theorem Settled.followedBy_self {state : State α} (settled : state.Settled) :
    (state.followedBy fun after => after) = state := by
  cases failed : state.failed with
  | true => rw [followedBy_of_failed failed, settled.cleared_eq failed]
  | false => rw [followedBy_of_running failed]

end State

namespace Parser

variable {R : Type → Type} {α β γ : Type}

/-- A result without any input. The sequence of nothing in it may be over leaves of any type. -/
def yielding (σ : Type) (result : Output α) : Parser R α :=
  .map (.sequence (.ofList [] : Parsers R σ)) fun _ => result

/-- Two parsers take every state to the same state. -/
def ActAlike (grammar : Grammar R) (first second : Parser R α) : Prop :=
  ∀ state : State α, first.apply grammar state = second.apply grammar state

theorem apply_chain (grammar : Grammar R) (parser : Parser R α) (next : Output α → Parser R β)
    (state : State β) :
    (Parser.chain parser next).apply grammar state =
      (parser.apply grammar state.cleared).followedBy fun after =>
        (next after.result).apply grammar after.cleared :=
  value_bind_cleared (parser.trace grammar state.cleared) fun after => do
    Traced.emit .called
    (next after.result).trace grammar after.cleared

/-- A sequence is its parts, one after the other, unless the state has failed before. -/
theorem apply_sequence_eq (grammar : Grammar R) (parsers : List (Parser R α)) (state : State α) :
    (Parser.sequence (.ofList parsers)).apply grammar state =
      state.followedBy fun start => applyAll grammar parsers start.cleared := by
  cases failed : state.failed with
  | true =>
    rw [State.followedBy_of_failed failed]
    exact value_unlessFailed_of_failed failed _
  | false => rw [State.followedBy_of_running failed, apply_sequence grammar parsers state failed]

theorem apply_map_sequence (grammar : Grammar R) (parsers : List (Parser R α))
    (f : Output α → Output β) (state : State β) :
    (Parser.map (.sequence (.ofList parsers)) f).apply grammar state =
      state.followedBy fun start =>
        (applyAll grammar parsers start.cleared).followedBy fun after =>
          after.withResult (f after.result) := by
  rw [apply_map, apply_sequence_eq, State.followedBy_assoc, State.followedBy_cleared]
  rfl

theorem apply_yielding (grammar : Grammar R) (σ : Type) (result : Output α) (state : State α) :
    (yielding σ result : Parser R α).apply grammar state =
      state.followedBy fun after => after.withResult result := by
  rw [yielding, apply_map_sequence]
  refine State.followedBy_congr fun running => ?_
  rw [applyAll, State.followedBy_withResult, State.followedBy_cleared,
    State.followedBy_of_running running]
  rfl

variable {grammar : Grammar R}

theorem map_map (parser : Parser R α) (f : Output α → Output β) (g : Output β → Output γ) :
    ActAlike grammar (.map (.map parser f) g) (.map parser (g ∘ f)) := by
  intro state
  rw [apply_map, apply_map, apply_map, State.followedBy_assoc, State.cleared_cleared]
  refine State.followedBy_congr fun found => ?_
  rw [State.followedBy_withResult, State.followedBy_of_running found]
  rfl

theorem map_eq_chain (σ : Type) (parser : Parser R α) (f : Output α → Output β) :
    ActAlike grammar (.map parser f) (.chain parser fun output => yielding σ (f output)) := by
  intro state
  rw [apply_map, apply_chain]
  refine State.followedBy_congr fun found => ?_
  rw [apply_yielding, State.followedBy_cleared, State.followedBy_of_running found,
    State.withResult_cleared]

theorem chain_chain (parser : Parser R α) (f : Output α → Parser R β)
    (g : Output β → Parser R γ) :
    ActAlike grammar (.chain (.chain parser f) g)
      (.chain parser fun output => .chain (f output) g) := by
  intro state
  rw [apply_chain, apply_chain, apply_chain, State.followedBy_assoc, State.cleared_cleared]
  refine State.followedBy_congr fun _ => ?_
  rw [apply_chain, State.cleared_cleared]

theorem map_id (rules : grammar.Standard) {parser : Parser R α} (standard : parser.Standard) :
    ActAlike grammar (.map parser id) parser := by
  intro state
  rw [apply_map, apply_cleared grammar standard]
  exact (apply_settled rules standard state).followedBy_self

theorem yielding_chain (σ : Type) (result : Output α) {next : Output α → Parser R β}
    (standard : (next result).Standard) {state : State β} (running : state.failed = false) :
    (Parser.chain (yielding σ result) next).apply grammar state =
      (next result).apply grammar state := by
  rw [apply_chain, apply_yielding, State.followedBy_assoc, State.followedBy_cleared,
    State.followedBy_of_running running, State.followedBy_withResult, State.followedBy_cleared,
    State.followedBy_of_running running]
  exact apply_cleared grammar standard state

/-- Map has the laws of a functor and chain those of a monad, and a map is the chain that yields the
changed result. Parts may be regrouped whatever they are; where one is left out, the one that stays
has to be standard. A parser that is chosen by a result is never given a failed state, on which by
itself it could lay messages over the failure, and so the last law is about states that have not
failed. -/
theorem map_chain_laws (rules : grammar.Standard) (σ : Type) {parser : Parser R α}
    (standard : parser.Standard) :
    ActAlike grammar (.map parser id) parser ∧
      ActAlike grammar (.chain parser (yielding σ)) parser ∧
      (∀ (f : Output α → Output β) (g : Output β → Output γ),
        ActAlike grammar (.map (.map parser f) g) (.map parser (g ∘ f))) ∧
      (∀ f : Output α → Output β,
        ActAlike grammar (.map parser f) (.chain parser fun output => yielding σ (f output))) ∧
      (∀ (f : Output α → Parser R β) (g : Output β → Parser R γ),
        ActAlike grammar (.chain (.chain parser f) g)
          (.chain parser fun output => .chain (f output) g)) ∧
      ∀ (result : Output α) (next : Output α → Parser R β) (state : State β),
        (next result).Standard → state.failed = false →
        (Parser.chain (yielding σ result) next).apply grammar state =
          (next result).apply grammar state := by
  refine ⟨map_id rules standard, ?_, map_map parser, map_eq_chain σ parser, chain_chain parser, ?_⟩
  · intro state
    rw [← map_id rules standard state]
    exact (map_eq_chain σ parser id state).symm
  · intro result next state standard running
    exact yielding_chain σ result standard running

end Parser

namespace Brackets

/-- A colon, with the result of what stands before it. -/
def marked (kind : Output String) : Parser Rule String := .map (.literal ":") fun _ => kind

/-- What stands behind a word of this kind. -/
def content (kind : Output String) : Parser Rule String :=
  if kind = .value "number" then .digits else .letters

theorem content_standard (kind : Output String) : (content kind).Standard := by
  unfold content
  split
  · exact .run .digits
  · exact .run .letters

/-- The kind before a colon decides what is read behind it, in whichever way the three are grouped,
and so does a kind that is only yielded. -/
theorem number_behind_kind :
    (Parser.chain (.chain .letters marked) content).apply grammar (.start "number:42") =
        ⟨.place "number:42" 9, .value "42", none, 0⟩ ∧
      (Parser.chain (.chain .letters marked) content).apply grammar (.start "number:é") =
        ⟨.place "number:é" 7, .empty, some (.patternMismatch "[0-9]+" 7), 0⟩ ∧
      (Parser.chain (.yielding Empty (.value "number")) content).apply grammar
        (.start "42") = ⟨.place "42" 2, .value "42", none, 0⟩ := by
  have rules : grammar.Standard := grammarWithin_standard defaultLimit
  have letters : (Parser.letters : Parser Rule String).Standard := .run .letters
  obtain ⟨_, _, _, _, regrouped, yielded⟩ :=
    Parser.map_chain_laws (β := String) (γ := String) rules Empty letters
  refine ⟨?_, ?_, ?_⟩
  · rw [regrouped marked content]
    decide +kernel
  · rw [regrouped marked content]
    decide +kernel
  · rw [yielded _ content _ (content_standard _) rfl]
    decide +kernel

end Brackets

end Descent
