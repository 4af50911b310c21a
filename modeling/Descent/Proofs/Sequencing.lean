import Descent.Proofs.Alternatives
import Descent.Proofs.Chaining

set_option autoImplicit false

/-!
Sequences, part by part.

The parts of a sequence may be any parsers, also steps of a grammar's own that go back, clear a
failure or change the text. All that a sequence does with them is to apply each to what the one
before it left (`Parser.stateBefore`), to put the results into a list and to stop at the first
failure. So a sequence may be cut anywhere (`Parser.applyAll_append`), it is a chain of its parts
(`Parser.apply_chainedBehind`), and what stands between two others is the middle one of three.
-/

namespace Descent

namespace Output

variable {α : Type}

/-- The items of a list. -/
def items (output : Output α) : List (Output α) := output.list?.getD []

/-- The items of two lists in one. -/
def concatenated : Output α → Output α
  | .list [.list first, .list second] => .list (first ++ second)
  | output => output

end Output

namespace State

variable {α β γ : Type}

/-- The state has a list as its result, or it has failed without one. -/
structure Listed (state : State α) : Prop where
  settled : state.Settled
  result : state.failed = false → state.result = .list state.result.items

/-- The same state with items put before those of its result, unless it has failed. -/
def prependAll (items : List (Output α)) (state : State α) : State α :=
  items.foldr prepend state

theorem prepend_withResult {state : State α} (running : state.failed = false) (item : Output α)
    (items : List (Output α)) :
    (state.withResult (.list items)).prepend item = state.withResult (.list (item :: items)) := by
  have listed : (state.withResult (.list items)).failed = false := running
  exact prepend_of_list listed rfl item

theorem prepend_then_followedBy (item : Output α) (state : State α) (next : State α → State β) :
    (state.prepend item).followedBy next =
      state.followedBy fun after => next (after.prepend item) := by
  unfold followedBy
  rw [failed_prepend, cleared_prepend]

theorem prependAll_followedBy (items : List (Output β)) (state : State α)
    (next : State α → State β) :
    (state.followedBy next).prependAll items =
      state.followedBy fun after => (next after).prependAll items := by
  induction items with
  | nil => rfl
  | cons item items ih => exact (congrArg (prepend item) ih).trans (prepend_followedBy ..)

theorem prependAll_prepend (items : List (Output α)) (item : Output α) (state : State α) :
    (state.prepend item).prependAll items = state.prependAll (items ++ [item]) := by
  rw [prependAll, prependAll, List.foldr_append]
  rfl

theorem Listed.prepend {state : State α} (listed : state.Listed) (item : Output α) :
    (state.prepend item).Listed where
  settled := listed.settled.prepend item
  result running := by
    have running : state.failed = false := (failed_prepend item state).symm.trans running
    rw [prepend_of_list running (listed.result running)]
    rfl

theorem Listed.prependAll_eq {state : State α} (listed : state.Listed) (items : List (Output α)) :
    state.prependAll items =
      state.followedBy fun after => after.withResult (.list (items ++ after.result.items)) := by
  induction items with
  | nil =>
    cases failed : state.failed with
    | true => exact ((followedBy_of_failed failed _).trans (listed.settled.cleared_eq failed)).symm
    | false =>
      rw [followedBy_of_running failed, List.nil_append, ← listed.result failed, withResult_result]
      rfl
  | cons item items ih =>
    refine (congrArg (State.prepend item) ih).trans ?_
    rw [prepend_followedBy]
    refine followedBy_congr fun running => ?_
    rw [prepend_withResult running, List.cons_append]

end State

namespace Parser

variable {R : Type → Type} {α : Type} {grammar : Grammar R}

theorem applyAll_listed (parsers : List (Parser R α)) (state : State α) :
    (applyAll grammar parsers state.cleared).Listed := by
  induction parsers generalizing state with
  | nil => exact ⟨fun _ => rfl, fun _ => rfl⟩
  | cons parser rest ih =>
    rw [applyAll]
    cases failed : (parser.apply grammar state.cleared).failed with
    | true =>
      rw [State.followedBy_of_failed failed]
      exact ⟨fun _ => rfl, fun _ => rfl⟩
    | false =>
      rw [State.followedBy_of_running failed]
      exact (ih _).prepend _

theorem applyAll_append (first second : List (Parser R α)) {state : State α}
    (running : state.failed = false) :
    applyAll grammar (first ++ second) state.cleared =
      (applyAll grammar first state.cleared).followedBy fun after =>
        (applyAll grammar second after.cleared).prependAll after.result.items := by
  induction first generalizing state with
  | nil =>
    rw [List.nil_append, applyAll, State.followedBy_withResult, State.followedBy_cleared,
      State.followedBy_of_running running]
    rfl
  | cons parser rest ih =>
    rw [List.cons_append, applyAll, applyAll, State.followedBy_assoc]
    refine State.followedBy_congr fun found => ?_
    rw [ih found, State.prepend_followedBy, State.prepend_then_followedBy]
    refine State.followedBy_congr fun success => ?_
    have listed := (applyAll_listed rest (parser.apply grammar state.cleared)).result success
    rw [State.cleared_prepend, State.prepend_of_list success listed]
    rfl

/-! ## Chains -/

/-- Each of several parsers chained to the ones before it. What is yielded last is the list of the
results found before them and of their own. -/
def chainedBehind (σ : Type) (found : List (Output α)) : List (Parser R α) → Parser R α
  | [] => yielding σ (.list found)
  | parser :: rest => .chain parser fun result => chainedBehind σ (found ++ [result]) rest

/-- Several parsers chained to each other, and last the list of their results. -/
def chained (σ : Type) (parsers : List (Parser R α)) : Parser R α := chainedBehind σ [] parsers

theorem apply_chainedBehind (σ : Type) (found : List (Output α)) (parsers : List (Parser R α))
    {state : State α} (running : state.failed = false) :
    (chainedBehind σ found parsers).apply grammar state =
      (applyAll grammar parsers state.cleared).prependAll found := by
  induction parsers generalizing found state with
  | nil =>
    rw [chainedBehind, apply_yielding, (applyAll_listed [] state).prependAll_eq, applyAll,
      State.followedBy_withResult, State.followedBy_cleared]
    refine State.followedBy_congr fun _ => ?_
    simp [Output.items, Output.list?]
  | cons parser rest ih =>
    rw [chainedBehind, apply_chain, applyAll, State.prependAll_followedBy]
    refine State.followedBy_congr fun success => ?_
    have goesOn : ((parser.apply grammar state.cleared).cleared : State α).failed = false := success
    rw [ih _ goesOn, State.prependAll_prepend, State.cleared_cleared]

/-! ## Parts -/

/-- The state before the part at an index, if those before it are applied one after the other. -/
def stateBefore (grammar : Grammar R) (parsers : List (Parser R α)) (state : State α)
    (index : Nat) : State α :=
  (parsers.take index).foldl (fun reached parser => (parser.apply grammar reached).cleared)
    state.cleared

/-- What the part at an index comes to. -/
def part (grammar : Grammar R) (parsers : List (Parser R α)) (state : State α)
    (index : Fin parsers.length) : State α :=
  parsers[index].apply grammar (stateBefore grammar parsers state index)

theorem part_succ (parser : Parser R α) (rest : List (Parser R α)) (state : State α)
    (index : Fin rest.length) :
    part grammar (parser :: rest) state index.succ =
      part grammar rest (parser.apply grammar state.cleared) index := rfl

theorem stateBefore_running (parsers : List (Parser R α)) {state : State α}
    (running : state.failed = false)
    (found : ∀ index, (part grammar parsers state index).failed = false) :
    (stateBefore grammar parsers state parsers.length).failed = false := by
  induction parsers generalizing state with
  | nil => exact running
  | cons parser rest ih => exact ih (found 0) fun index => found index.succ

/-- Where all parts succeed there is a result for each, in their order. -/
theorem applyAll_of_found (parsers : List (Parser R α)) {state : State α}
    (running : state.failed = false)
    (found : ∀ index, (part grammar parsers state index).failed = false) :
    applyAll grammar parsers state.cleared =
      (stateBefore grammar parsers state parsers.length).withResult
        (.list (List.ofFn fun index => (part grammar parsers state index).result)) := by
  induction parsers generalizing state with
  | nil => rfl
  | cons parser rest ih =>
    have first : (parser.apply grammar state.cleared).failed = false := found 0
    have last := stateBefore_running rest first fun index => found index.succ
    have others := ih first fun index => found index.succ
    rw [applyAll, State.followedBy_of_running first, others, State.prepend_withResult last,
      List.ofFn_succ]
    rfl

theorem applyAll_of_missing (parsers : List (Parser R α)) (state : State α)
    (index : Fin parsers.length)
    (found : ∀ earlier < index, (part grammar parsers state earlier).failed = false)
    (missing : (part grammar parsers state index).failed = true) :
    applyAll grammar parsers state.cleared = (part grammar parsers state index).cleared := by
  induction parsers generalizing state with
  | nil => exact index.elim0
  | cons parser rest ih =>
    rw [applyAll]
    cases index using Fin.cases with
    | zero => exact State.followedBy_of_failed missing _
    | succ index =>
      have first : (parser.apply grammar state.cleared).failed = false := found 0 index.succ_pos
      have others := ih (parser.apply grammar state.cleared) index
        (fun earlier before => found earlier.succ (Fin.succ_lt_succ_iff.mpr before)) missing
      rw [State.followedBy_of_running first, others, part_succ]
      exact State.prepend_of_failed _ missing

/-- The lists of two sequences, one after the other, make up the list of one. -/
theorem sequence_append (grammar : Grammar R) (first second : List (Parser R α)) :
    ActAlike grammar (.sequence (.ofList (first ++ second)))
      (.map (.sequence (.ofList [.sequence (.ofList first), .sequence (.ofList second)]))
        .concatenated) := by
  intro state
  rw [apply_sequence_eq, apply_map_sequence]
  refine State.followedBy_congr fun running => ?_
  rw [applyAll_append first second running, applyAll_pair, State.followedBy_assoc,
    apply_sequence grammar first state.cleared running]
  refine State.followedBy_congr fun found => ?_
  have goesOn : ((applyAll grammar first state.cleared).cleared : State α).failed = false := found
  rw [(applyAll_listed second _).prependAll_eq, State.paired, State.followedBy_assoc,
    apply_sequence grammar second _ goesOn]
  refine State.followedBy_congr fun success => ?_
  rw [State.followedBy_withResult, State.followedBy_of_running success,
    (applyAll_listed first state).result found, (applyAll_listed second _).result success]
  rfl

/-- A sequence may be cut into two whose lists are put together, and it is the chain of its parts.
Its result has the result of each part at the index of the part. If a part fails, then the sequence
comes to what the first such part comes to, without a result. -/
theorem sequence_composes (grammar : Grammar R) (σ : Type) (parsers others : List (Parser R α)) :
    ActAlike grammar (.sequence (.ofList (parsers ++ others)))
        (.map (.sequence (.ofList [.sequence (.ofList parsers), .sequence (.ofList others)]))
          .concatenated) ∧
      ∀ state : State α, state.failed = false →
        (Parser.sequence (.ofList parsers)).apply grammar state =
            (chained σ parsers).apply grammar state ∧
          ((∀ index, (part grammar parsers state index).failed = false) →
            (Parser.sequence (.ofList parsers)).apply grammar state =
              (stateBefore grammar parsers state parsers.length).withResult
                (.list (List.ofFn fun index => (part grammar parsers state index).result))) ∧
          ∀ index, (∀ earlier < index, (part grammar parsers state earlier).failed = false) →
            (part grammar parsers state index).failed = true →
            (Parser.sequence (.ofList parsers)).apply grammar state =
              (part grammar parsers state index).cleared := by
  refine ⟨sequence_append grammar parsers others, fun state running => ?_⟩
  have whole := apply_sequence grammar parsers state running
  rw [whole, chained, apply_chainedBehind σ [] parsers running]
  exact ⟨rfl, applyAll_of_found parsers running, applyAll_of_missing parsers state⟩

end Parser

namespace Brackets

/-- The start of the text, from wherever it is applied. -/
def again : Parser Rule String :=
  .custom "again" (.move (fun state => ⟨.place state.text 0, .value "again", none, 0⟩) .done)

/-- A part that begins the text again is one like the others. Where digits are missing after it the
sequence stands at the start of the text. -/
theorem text_read_again :
    (Parser.map (.sequence (.ofList
        [.sequence (.ofList [.letters, again]), .sequence (.ofList [.letters, .digits])]))
          .concatenated).apply grammar (.start "ab1") =
        ⟨.place "ab1" 3, .list [.value "ab", .value "again", .value "ab", .value "1"], none, 0⟩ ∧
      (Parser.chained Empty [.letters, again]).apply grammar (.start "ab1") =
        ⟨.place "ab1" 0, .list [.value "ab", .value "again"], none, 0⟩ ∧
      (Parser.sequence (.ofList [.letters, again, .digits])).apply grammar (.start "ab1") =
        ⟨.place "ab1" 0, .empty, some (.patternMismatch "[0-9]+" 0), 0⟩ := by
  obtain ⟨cut, parts⟩ :=
    Parser.sequence_composes grammar Empty [.letters, again] [.letters, .digits]
  obtain ⟨chains, aligned, _⟩ := parts (.start "ab1") rfl
  obtain ⟨_, parts⟩ := Parser.sequence_composes grammar Empty [.letters, again, .digits] []
  obtain ⟨_, _, stops⟩ := parts (.start "ab1") rfl
  refine ⟨?_, ?_, ?_⟩
  · rw [← cut]
    decide +kernel
  · rw [← chains, aligned (by decide +kernel)]
    decide +kernel
  · rw [stops 2 (by decide +kernel) (by decide +kernel)]
    decide +kernel

end Brackets

namespace Parser

variable {R : Type → Type} {α : Type}

/-! ## Between two parsers -/

theorem apply_between {l r : Type} (grammar : Grammar R) (left : Parser R l) (right : Parser R r)
    (content : Parser R α) (state : State α) :
    (Parser.between left right content).apply grammar state =
      state.followedBy fun start =>
        (left.apply grammar start.cleared).followedBy fun afterLeft =>
          (content.apply grammar afterLeft.cleared).followedBy fun afterContent =>
            (right.apply grammar afterContent.cleared).followedBy fun afterRight =>
              afterRight.withResult afterContent.result := by
  cases failed : state.failed with
  | true =>
    rw [State.followedBy_of_failed failed]
    exact value_unlessFailed_of_failed failed _
  | false =>
    rw [State.followedBy_of_running failed]
    refine (value_unlessFailed_of_running failed _).trans ?_
    rw [value_bind_cleared]
    refine State.followedBy_congr fun _ => ?_
    rw [value_bind_cleared]
    refine State.followedBy_congr fun _ => ?_
    rw [value_bind_cleared]
    rfl

/-- What stands between two parsers is the middle one of three. -/
theorem between_is_middle (grammar : Grammar R) (left right content : Parser R α) :
    ActAlike grammar (.between left right content)
      (.map (.sequence (.ofList [left, content, right])) .second) := by
  intro state
  rw [apply_between, apply_map_sequence]
  refine State.followedBy_congr fun _ => ?_
  rw [applyAll, State.followedBy_assoc]
  refine State.followedBy_congr fun _ => ?_
  rw [applyAll_pair, State.prepend_then_followedBy, State.followedBy_assoc]
  refine State.followedBy_congr fun _ => ?_
  rw [State.paired, State.followedBy_assoc]
  refine State.followedBy_congr fun closed => ?_
  rw [State.followedBy_withResult, State.followedBy_of_running closed,
    State.prepend_withResult closed]
  rfl

end Parser

end Descent
