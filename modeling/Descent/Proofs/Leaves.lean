import Descent.Proofs.Places
import Descent.Proofs.Reading

set_option autoImplicit false

/-!
Results are made of the text.

The leaves of a result are pieces of the text that was consumed, in the order in which they stand
there. `Text.Scattered` says so of leaves and characters; it is kept when leaves and characters that
follow are appended, so that each combinator has it of its parts. Characters that belong to no leaf
are only left out by the combinators that drop a result.
-/

namespace Descent

namespace Output

variable {α : Type}

theorem flattenAll_eq_leavesOfItems (pending : List (Output α)) :
    flattenAll pending = leavesOfItems pending := by
  fun_induction flattenAll pending with
  | case1 => rfl
  | case2 leaf pending ih => rw [ih]; rfl
  | case3 items pending ih => rw [ih, leavesOfItems_append]; rfl

theorem flatten_eq_leaves (output : Output α) : output.flatten = output.leaves := by
  rw [flatten, flattenAll_eq_leavesOfItems, leavesOfItems, leavesOfItems, List.append_nil]

end Output

namespace Text

/-- The word stands in the text, between these positions. -/
def IsSlice (text : String) (start stop : Nat) (word : String) : Prop :=
  ∃ before after, text = before ++ word ++ after ∧ before.utf8ByteSize = start ∧
    (before ++ word).utf8ByteSize = stop

/-- The spans lie one after the other between two positions. -/
def InOrder : Nat → List (Nat × Nat) → Nat → Prop
  | first, [], last => first ≤ last
  | first, (start, stop) :: spans, last => first ≤ start ∧ start ≤ stop ∧ InOrder stop spans last

/-- A leaf that is the text of some characters. -/
inductive Spells : {α : Type} → α → List Char → Prop where
  | text (written : List Char) : Spells (String.ofList written) written

/-- The leaves stand in the characters, one after the other. Characters that belong to no leaf stand
between them only if there may be gaps. -/
inductive Scattered (gaps : Prop) {α : Type} : List α → List Char → Prop where
  | none {gap : List Char} : (gap = [] ∨ gaps) → Scattered gaps [] gap
  | leaf {gap word written : List Char} {leaf : α} {leaves : List α} :
      (gap = [] ∨ gaps) → Spells leaf word → Scattered gaps leaves written →
      Scattered gaps (leaf :: leaves) (gap ++ (word ++ written))

theorem Spells.eq {leaf : String} {word : List Char} (spells : Spells leaf word) :
    leaf = String.ofList word := by
  cases spells
  rfl

namespace Scattered

variable {gaps : Prop} {α : Type} {leaves leaves' : List α} {written written' : List Char}

theorem nil : Scattered gaps ([] : List α) [] := .none (.inl rfl)

theorem singleton {leaf : α} {word : List Char} (spells : Spells leaf word) :
    Scattered gaps [leaf] word := by
  have scattered : Scattered gaps [leaf] ([] ++ (word ++ [])) := .leaf (.inl rfl) spells nil
  simpa using scattered

theorem skip {gap : List Char} (allowed : gap = [] ∨ gaps)
    (scattered : Scattered gaps leaves written) : Scattered gaps leaves (gap ++ written) := by
  rcases allowed with rfl | allowed
  · exact scattered
  · cases scattered with
    | none _ => exact .none (.inr allowed)
    | leaf _ spells rest =>
      rw [← List.append_assoc]
      exact .leaf (.inr allowed) spells rest

theorem append (first : Scattered gaps leaves written) (second : Scattered gaps leaves' written') :
    Scattered gaps (leaves ++ leaves') (written ++ written') := by
  induction first with
  | none allowed => exact second.skip allowed
  | leaf allowed spells _ ih =>
    rw [List.append_assoc, List.append_assoc]
    exact .leaf allowed spells ih

/-- The spans of leaves that stand in characters of a text. -/
theorem spans {leaves : List String} (scattered : Scattered gaps leaves written)
    {text before after : String} (split : text = before ++ String.ofList written ++ after) :
    ∃ pieces : List (String × Nat × Nat), pieces.map Prod.fst = leaves ∧
      InOrder before.utf8ByteSize (pieces.map Prod.snd)
        (before ++ String.ofList written).utf8ByteSize ∧
      ∀ piece ∈ pieces, IsSlice text piece.2.1 piece.2.2 piece.1 := by
  induction scattered generalizing before with
  | none _ => exact ⟨[], rfl, by simp [InOrder], by simp⟩
  | @leaf gap word written leaf leaves _ spells _ ih =>
    simp only [String.ofList_append, ← String.append_assoc] at split ⊢
    obtain ⟨pieces, rfl, ordered, slices⟩ := ih split
    have spelled := spells.eq
    subst spelled
    let start := (before ++ String.ofList gap).utf8ByteSize
    let stop := (before ++ String.ofList gap ++ String.ofList word).utf8ByteSize
    have started : before.utf8ByteSize ≤ start := by
      simp only [start, String.utf8ByteSize_append]
      exact Nat.le_add_right _ _
    have stopped : start ≤ stop := by
      simp only [start, stop, String.utf8ByteSize_append]
      exact Nat.le_add_right _ _
    have slice : IsSlice text start stop (String.ofList word) :=
      ⟨_, String.ofList written ++ after, by simpa [String.append_assoc] using split, rfl, rfl⟩
    exact ⟨(String.ofList word, start, stop) :: pieces, rfl, ⟨started, stopped, ordered⟩,
      List.forall_mem_cons.mpr ⟨slice, slices⟩⟩

/-- Without gaps the leaves make up all of the characters. -/
theorem join_eq {leaves : List String} (scattered : Scattered False leaves written) :
    String.join leaves = String.ofList written := by
  induction scattered with
  | none allowed =>
    rw [allowed.resolve_right id]
    rfl
  | leaf allowed spells _ ih =>
    rw [allowed.resolve_right id, String.join_cons, ih, spells.eq, List.nil_append,
      String.ofList_append]

end Scattered

end Text

namespace State

variable {α β γ σ : Type}

theorem Reads.take (state : State α) (count : Nat) (output : Output β) :
    state.Reads (state.rest.take count) (state.rest.drop count) output
      (state.consume count output) := by
  refine ⟨(List.take_append_drop count state.rest).symm, ?_⟩
  have same : state.cursor.advance count = state.cursor.advance (state.rest.take count).length := by
    apply Text.Cursor.ext
    · rfl
    · rw [Text.Cursor.position_advance, Text.Cursor.position_advance, List.length_take,
        ← List.take_eq_take_min]
  rw [consume, same]
  rfl

/-- If a part succeeds, then it has consumed the characters in which the leaves of its result stand,
and gaps between them if these may be. -/
def Gathers (gaps : Prop) (before : State α) (after : State β) : Prop :=
  after.failed = false → ∃ written rest, before.Reads written rest after.result after ∧
    Text.Scattered gaps after.result.leaves written

/-- The same of a part that yields a list. -/
def GathersItems (gaps : Prop) (before : State α) (after : State β) : Prop :=
  after.failed = false → ∃ items written rest, before.Reads written rest (.list items) after ∧
    Text.Scattered gaps (Output.leavesOfItems items) written

variable {gaps : Prop} {before : State α} {middle : State β} {after : State γ}

theorem GathersItems.of_failed (failed : after.failed = true) :
    before.GathersItems gaps after := by
  intro succeeds
  simp [failed] at succeeds

theorem GathersItems.gathers (gathers : before.GathersItems gaps after) :
    before.Gathers gaps after := by
  intro succeeds
  obtain ⟨items, written, rest, reads, scattered⟩ := gathers succeeds
  refine ⟨written, rest, ?_⟩
  rw [reads.result]
  exact ⟨reads, scattered⟩

theorem GathersItems.requireItems {after : State α} (gathers : before.GathersItems gaps after)
    (failure : Nat → Failure) : before.GathersItems gaps (after.requireItems failure) := by
  unfold State.requireItems
  split
  · intro succeeds
    contradiction
  · exact gathers

theorem GathersItems.nil : before.GathersItems gaps (before.withResult (.list []) : State β) :=
  fun _ => ⟨[], [], _, .nothing rfl, .nil⟩

namespace Gathers

theorem of_failed (failed : after.failed = true) : before.Gathers gaps after := by
  intro succeeds
  simp [failed] at succeeds

theorem empty : before.Gathers gaps (before.cleared : State β) :=
  fun _ => ⟨[], _, .nothing rfl, .nil⟩

theorem of_cleared {state : State α} (gathers : (state.cleared : State γ).Gathers gaps middle) :
    state.Gathers gaps middle := by
  intro succeeds
  obtain ⟨written, rest, reads, scattered⟩ := gathers succeeds
  exact ⟨written, rest, reads.of_cleared, scattered⟩

/-- The depth at which a rule is read does not matter. -/
theorem leave {state after : State α} {depth : Nat}
    (gathers : (state.cleared.atDepth depth : State α).Gathers gaps after) :
    state.Gathers gaps (after.atDepth state.depth) := by
  intro succeeds
  obtain ⟨written, rest, reads, scattered⟩ := gathers succeeds
  refine ⟨written, rest, ⟨reads.remains, ?_⟩, scattered⟩
  exact congrArg (State.atDepth · state.depth) reads.after_eq

/-- A single leaf is consumed. -/
theorem leaf {count : Nat} {value : β} (spells : Text.Spells value (before.rest.take count)) :
    before.Gathers gaps (before.consume count (.value value)) :=
  fun _ => ⟨_, _, .take before count _, .singleton spells⟩

theorem singleton (gathers : before.Gathers gaps middle) :
    before.GathersItems gaps (middle.withResult (.list [middle.result])) := by
  intro succeeds
  obtain ⟨written, rest, reads, scattered⟩ := gathers succeeds
  refine ⟨[middle.result], written, rest, reads.withResult, ?_⟩
  simpa [Output.leavesOfItems] using scattered

theorem prepend {after : State β} (gathers : before.Gathers gaps middle)
    (running : middle.failed = false)
    (others : (middle.cleared : State β).GathersItems gaps after) :
    before.GathersItems gaps (after.prepend middle.result) := by
  intro succeeds
  rw [failed_prepend] at succeeds
  obtain ⟨written, rest, reads, scattered⟩ := gathers running
  obtain ⟨items, written', rest', reads', scattered'⟩ := others succeeds
  have started : before.failed = false := reads.failed.symm.trans running
  exact ⟨middle.result :: items, written ++ written', rest',
    (reads.trans reads').prepend started middle.result, scattered.append scattered'⟩

/-- The result of the first part is dropped. -/
theorem drop_first (allowed : gaps) (dropped : before.Gathers gaps middle)
    (running : middle.failed = false) (gathers : (middle.cleared : State γ).Gathers gaps after) :
    before.Gathers gaps after := by
  intro succeeds
  obtain ⟨gap, rest, skipped, _⟩ := dropped running
  obtain ⟨written, rest', reads, scattered⟩ := gathers succeeds
  exact ⟨gap ++ written, rest', skipped.trans reads, scattered.skip (.inr allowed)⟩

/-- The result of the second part is dropped. -/
theorem drop_second (allowed : gaps) (gathers : before.Gathers gaps middle)
    (running : middle.failed = false) (dropped : (middle.cleared : State γ).Gathers gaps after) :
    before.Gathers gaps (after.withResult middle.result) := by
  intro succeeds
  obtain ⟨written, rest, reads, scattered⟩ := gathers running
  obtain ⟨gap, rest', skipped, _⟩ := dropped succeeds
  refine ⟨written ++ gap, rest', (reads.trans skipped).withResult, ?_⟩
  have none : Text.Scattered gaps ([] : List β) gap := .none (.inr allowed)
  simpa using scattered.append none

/-- From a place of the text the characters are read that stand there. -/
theorem split (gathers : before.Gathers gaps middle) (succeeds : middle.failed = false)
    (place : Text.IsPlace before.text before.position) :
    ∃ (prior following : String) (written : List Char),
      before.text = prior ++ String.ofList written ++ following ∧
        prior.utf8ByteSize = before.position ∧
        (prior ++ String.ofList written).utf8ByteSize = middle.position ∧
        Text.Scattered gaps middle.result.leaves written := by
  obtain ⟨written, rest, reads, scattered⟩ := gathers succeeds
  obtain ⟨prior, split, length⟩ := Text.Cursor.exists_append_rest place
  have started : (String.ofList prior).utf8ByteSize = before.position := by
    rw [Text.utf8ByteSize_ofList, length]
  refine ⟨.ofList prior, .ofList rest, written, ?_, started, ?_, scattered⟩
  · rw [← String.ofList_append, ← String.ofList_append, List.append_assoc, ← reads.remains, ← split,
      String.ofList_toList]
  · rw [String.utf8ByteSize_append, started, Text.utf8ByteSize_ofList, reads.position]

end Gathers

end State

namespace Parser

open State (Gathers GathersItems)

variable {R : Type → Type} {α β σ : Type}

/-- Built from the matchers and the combinators alone, with no function that changes a result. Parts
whose result is dropped occur only if `drops` holds. -/
inductive Verbatim (drops : Prop) : {α : Type} → Parser R α → Prop where
  | literal (expected : String) : Verbatim drops (.literal expected)
  | pattern (expected : Pattern) : Verbatim drops (.pattern expected)
  | run (kind : CharRun) : Verbatim drops (.run kind)
  | sequence {α : Type} {parsers : List (Parser R α)} :
      (∀ parser ∈ parsers, Verbatim drops parser) → Verbatim drops (.sequence (.ofList parsers))
  | choice {α : Type} {alternatives : List (Parser R α)} :
      (∀ parser ∈ alternatives, Verbatim drops parser) →
      Verbatim drops (.choice (.ofList alternatives))
  | many {α : Type} {body : Parser R α} : Verbatim drops body → Verbatim drops (.many body)
  | many1 {α : Type} {body : Parser R α} : Verbatim drops body → Verbatim drops (.many1 body)
  | sepBy {σ α : Type} {separator : Parser R σ} {value : Parser R α} :
      drops → Verbatim drops separator → Verbatim drops value →
      Verbatim drops (.sepBy separator value)
  | sepBy1 {σ α : Type} {separator : Parser R σ} {value : Parser R α} :
      drops → Verbatim drops separator → Verbatim drops value →
      Verbatim drops (.sepBy1 separator value)
  | between {l r α : Type} {left : Parser R l} {right : Parser R r} {content : Parser R α} :
      drops → Verbatim drops left → Verbatim drops right → Verbatim drops content →
      Verbatim drops (.between left right content)
  | lazy {α : Type} (cell : Nat) (limit : UInt64) (rule : R α) :
      Verbatim drops (.lazy cell limit rule)
  | named {α : Type} (name : String) {parser : Parser R α} :
      Verbatim drops parser → Verbatim drops (.named name parser)
  | chain {α β : Type} {parser : Parser R α} {next : Output α → Parser R β} :
      drops → Verbatim drops parser → (∀ output, Verbatim drops (next output)) →
      Verbatim drops (.chain parser next)
  | errorMap {α : Type} {parser : Parser R α} (message : Failure → Nat → String) :
      Verbatim drops parser → Verbatim drops (.errorMap parser message)

end Parser

/-- All rules of the grammar are verbatim parsers. -/
def Grammar.Verbatim {R : Type → Type} (drops : Prop) (grammar : Grammar R) : Prop :=
  ∀ (α : Type) (rule : R α), (grammar α rule).Verbatim drops

namespace Parser

open State (Gathers GathersItems)

variable {R : Type → Type} {α β σ : Type} {gaps : Prop}

theorem gathers_unlessFailed {state : State α} {work : Traced (State α)}
    (gathers : state.Gathers gaps work.value) :
    state.Gathers gaps (application state (unlessFailed state work)).value := by
  rw [value_application, value_unlessFailed]
  split
  next failed => exact .of_failed failed
  next => exact gathers

theorem matchLiteral_gathers (expected : String) (state : State String) :
    state.Gathers gaps (matchLiteral expected state).value := by
  simp only [matchLiteral, Traced.value_bind]
  split
  · exact .of_failed rfl
  · split
    next starts =>
      refine .leaf ?_
      have found := List.prefix_iff_eq_take.mp (List.isPrefixOf_iff_prefix.mp starts)
      have spells : Text.Spells (String.ofList expected.toList) expected.toList := .text _
      rw [String.ofList_toList] at spells
      rwa [← found]
    next => exact .of_failed rfl

theorem matchPattern_gathers (source : String) (matchLength? : List Char → Option Nat)
    (state : State String) : state.Gathers gaps (matchPattern source matchLength? state).value := by
  simp only [matchPattern, Traced.value_bind]
  split
  · exact .of_failed rfl
  · split
    · exact .leaf (.text _)
    · exact .of_failed rfl

theorem repeatFrom_gathers {step : State α → Traced (State α)}
    (gathers : ∀ state : State α, state.Gathers gaps (step state).value) (bound : Nat)
    (state : State α) : state.GathersItems gaps (repeatFrom step bound state).value := by
  induction bound generalizing state with
  | zero => exact .nil
  | succ bound ih =>
    have next := gathers state
    simp only [repeatFrom, Traced.value_bind]
    generalize (step state).value = after at *
    split
    next fatal => exact .of_failed (State.failed_of_failedFatally fatal)
    next =>
      split
      next => exact .nil
      next running =>
        split
        · exact next.singleton
        · have running : after.failed = false := by simpa using running
          exact next.prepend running (ih _)

theorem separateFrom_gathers {separator : State σ → Traced (State σ)}
    {value : State α → Traced (State α)} (allowed : gaps)
    (separatorGathers : ∀ state : State σ, state.Gathers gaps (separator state).value)
    (valueGathers : ∀ state : State α, state.Gathers gaps (value state).value) (bound : Nat)
    (state : State α) :
    state.GathersItems gaps (separateFrom separator value bound state).value := by
  induction bound generalizing state with
  | zero => exact .nil
  | succ bound ih =>
    have item := valueGathers state
    simp only [separateFrom, Traced.value_bind]
    generalize (value state).value = after at *
    split
    next fatal => exact .of_failed (State.failed_of_failedFatally fatal)
    next =>
      split
      next => exact .nil
      next running =>
        have running : after.failed = false := by simpa using running
        -- A separator that no value follows is consumed all the same: a gap after the last item.
        have separated := item.drop_second allowed running (separatorGathers after.cleared)
        simp only [Traced.value_bind]
        generalize (separator after.cleared).value = following at *
        split
        next fatal => exact .of_failed (State.failed_of_failedFatally fatal)
        next =>
          split
          next => exact item.singleton
          next running' =>
            split
            · exact separated.singleton
            · have running' : following.failed = false := by simpa using running'
              exact separated.prepend running' (ih _)

/-- A part whose result is dropped or taken up by what follows it. -/
theorem bind_cleared_gathers {before : State σ} {first : Traced (State α)}
    {next : State α → Traced (State β)}
    (goesOn : first.value.failed = false → before.Gathers gaps (next first.value).value) :
    before.Gathers gaps (do
      let after ← first
      if after.failed then return after.cleared else next after).value := by
  rw [Traced.value_bind]
  split
  next failed => exact .of_failed failed
  next running => exact goesOn (by simpa using running)

variable {enter : Enter R} {scope : Address}

theorem sequenceWith_gathers {parsers : List (Parser R α)}
    (gathers : ∀ parser ∈ parsers, ∀ state : State α,
      state.Gathers gaps (traceWith enter scope parser state).value) (state : State α) :
    state.GathersItems gaps (sequenceWith enter scope (.ofList parsers) state).value := by
  induction parsers generalizing state with
  | nil => exact .nil
  | cons parser rest ih =>
    have item := gathers parser (by simp) state
    simp only [Parsers.ofList, sequenceWith, Traced.value_bind]
    split
    next failed => exact .of_failed failed
    next running =>
      refine item.prepend (by simpa using running) (ih ?_ _)
      exact fun parser member => gathers parser (by simp [member])

theorem chooseWith_gathers {alternatives : List (Parser R α)}
    (gathers : ∀ parser ∈ alternatives, ∀ state : State α,
      state.Gathers gaps (traceWith enter scope parser state).value) (state : State α) :
    state.Gathers gaps (chooseWith enter scope (.ofList alternatives) state).value := by
  induction alternatives with
  | nil => exact .of_failed rfl
  | cons parser rest ih =>
    simp only [Parsers.ofList, chooseWith, Traced.value_bind]
    split
    · exact gathers parser (by simp) state
    · exact ih fun parser member => gathers parser (by simp [member])

theorem traceWith_gathers
    (enters : ∀ {α : Type} (address : Address) (rule : R α) (state : State α),
      state.Gathers gaps (enter address rule state).value)
    {parser : Parser R α} (verbatim : parser.Verbatim gaps) (state : State α) :
    state.Gathers gaps (traceWith enter scope parser state).value := by
  induction verbatim with
  | literal expected => exact gathers_unlessFailed (matchLiteral_gathers _ _)
  | pattern expected => exact gathers_unlessFailed (matchPattern_gathers _ _ _)
  | run kind => exact gathers_unlessFailed (matchPattern_gathers _ _ _)
  | sequence _ ih =>
    exact gathers_unlessFailed (sequenceWith_gathers ih state.cleared).gathers.of_cleared
  | choice _ ih => exact gathers_unlessFailed (chooseWith_gathers ih state)
  | many _ ih =>
    exact gathers_unlessFailed (repeatFrom_gathers ih _ state.cleared).gathers.of_cleared
  | many1 _ ih =>
    have items := repeatFrom_gathers ih (stepBound state) state.cleared
    exact gathers_unlessFailed (items.requireItems _).gathers.of_cleared
  | sepBy allowed _ _ separator value =>
    have items := separateFrom_gathers allowed separator value (stepBound state) state.cleared
    exact gathers_unlessFailed items.gathers.of_cleared
  | sepBy1 allowed _ _ separator value =>
    have items := separateFrom_gathers allowed separator value (stepBound state) state.cleared
    exact gathers_unlessFailed (items.requireItems _).gathers.of_cleared
  | between allowed _ _ _ left right content =>
    refine gathers_unlessFailed (bind_cleared_gathers fun opened => ?_)
    refine (left state.cleared).of_cleared.drop_first allowed opened ?_
    refine bind_cleared_gathers fun filled => ?_
    have closed := (content _).drop_second allowed filled (right (State.cleared _))
    refine bind_cleared_gathers fun _ => ?_
    exact closed
  | lazy cell limit rule =>
    apply gathers_unlessFailed
    split
    · exact .of_failed rfl
    · exact (enters (cell :: scope) rule (state.cleared.atDepth (state.depth + 1))).leave
  | named _ _ ih => exact ih state
  | chain allowed _ _ first second =>
    simp only [traceWith, value_application]
    refine bind_cleared_gathers fun running => ?_
    exact (first state.cleared).of_cleared.drop_first allowed running (second _ _)
  | errorMap message _ ih =>
    have inner := ih state
    simp only [traceWith, value_application, Traced.value_bind]
    split
    · exact inner
    · exact .of_failed rfl

theorem traceLevels_gathers {grammar : Grammar R} (rules : grammar.Verbatim gaps) (levels : Nat)
    (scope : Address) {parser : Parser R α} (verbatim : parser.Verbatim gaps) (state : State α) :
    state.Gathers gaps (traceLevels grammar levels scope parser state).value := by
  induction levels generalizing α scope with
  | zero => exact .empty
  | succ levels ih =>
    rw [traceLevels_succ]
    refine traceWith_gathers ?_ verbatim state
    intro α address rule state
    exact ih address (rules α rule) state

theorem apply_gathers {grammar : Grammar R} (rules : grammar.Verbatim gaps) {parser : Parser R α}
    (verbatim : parser.Verbatim gaps) (state : State α) :
    state.Gathers gaps (parser.apply grammar state) :=
  traceLevels_gathers rules allLevels [] verbatim state

/-- The leaves of a result are slices of the text, one after the other between the places where the
parser starts and ends. If no part has its result dropped, then they make up all that stands
there. -/
theorem leaves_are_slices {grammar : Grammar R} (rules : grammar.Verbatim True)
    {parser : Parser R String} (verbatim : parser.Verbatim True) {state : State String}
    (place : Text.IsPlace state.text state.position)
    (succeeds : (parser.apply grammar state).failed = false) :
    (∃ pieces : List (String × Nat × Nat),
        pieces.map Prod.fst = (parser.apply grammar state).result.flatten ∧
          Text.InOrder state.position (pieces.map Prod.snd) (parser.apply grammar state).position ∧
          ∀ piece ∈ pieces, Text.IsSlice state.text piece.2.1 piece.2.2 piece.1) ∧
      (grammar.Verbatim False → parser.Verbatim False →
        Text.IsSlice state.text state.position (parser.apply grammar state).position
          (String.join (parser.apply grammar state).result.flatten)) := by
  rw [Output.flatten_eq_leaves]
  constructor
  · obtain ⟨prior, following, written, split, started, ended, scattered⟩ :=
      (apply_gathers rules verbatim state).split succeeds place
    have spans := scattered.spans split
    rwa [started, ended] at spans
  · intro rules verbatim
    obtain ⟨prior, following, written, split, started, ended, scattered⟩ :=
      (apply_gathers rules verbatim state).split succeeds place
    rw [scattered.join_eq]
    exact ⟨prior, following, split, started, ended⟩

end Parser

namespace Brackets

/-- Words in round brackets, which are kept. -/
def bracketedWord : Grammar Rule
  | _, .value =>
    .choice (.ofList
      [.sequence (.ofList [.literal "(", .lazy 0 defaultLimit .value, .literal ")"]), .letters])

theorem bracketedWord_verbatim (drops : Prop) : bracketedWord.Verbatim drops
  | _, .value => by
    refine .choice ?_
    simpa using ⟨.sequence (by simpa using ⟨.literal _, .lazy .., .literal _⟩), .run .letters⟩

/-- Such words one after the other. -/
def bracketedWords : Parser Rule String :=
  .many1 (.errorMap (.lazy 0 defaultLimit .value) fun _ _ => "no word")

theorem bracketedWords_verbatim (drops : Prop) : bracketedWords.Verbatim drops :=
  .many1 (.errorMap _ (.lazy ..))

/-- Two words, and a bracket that is given back. -/
theorem bracketedWords_are_slices :
    (∃ pieces : List (String × Nat × Nat), pieces.map Prod.fst = ["(", "(", "a", ")", ")", "b"] ∧
        Text.InOrder 2 (pieces.map Prod.snd) 8 ∧
        ∀ piece ∈ pieces, Text.IsSlice "é((a))b(" piece.2.1 piece.2.2 piece.1) ∧
      Text.IsSlice "é((a))b(" 2 8 "((a))b" := by
  let state : State String := ⟨.place "é((a))b(" 2, .empty, none, 0⟩
  have place : Text.IsPlace "é((a))b(" 2 := by decide
  have succeeds : (bracketedWords.apply bracketedWord state).failed = false := by decide +kernel
  have ended : (bracketedWords.apply bracketedWord state).position = 8 := by decide +kernel
  have leaves : (bracketedWords.apply bracketedWord state).result.flatten =
      ["(", "(", "a", ")", ")", "b"] := by
    rw [Output.flatten_eq_leaves]
    decide +kernel
  obtain ⟨pieces, whole⟩ := Parser.leaves_are_slices (bracketedWord_verbatim True)
    (bracketedWords_verbatim True) place succeeds
  rw [leaves, ended] at pieces whole
  exact ⟨pieces, whole (bracketedWord_verbatim False) (bracketedWords_verbatim False)⟩

end Brackets

end Descent
