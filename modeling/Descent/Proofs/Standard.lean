import Descent.Brackets

set_option autoImplicit false

/-!
Standard parsers: those built from the matchers and the combinators alone.

A standard parser only ever moves forward, over characters that remain where it starts, and leaves
as many rules open as it finds. `State.Advances` says so of one application; it holds for every
combinator whose parts have it, whatever is done on entering a rule that has it too.
-/

namespace Descent

namespace Text

theorem utf8ByteSize_ofList (chars : List Char) :
    (String.ofList chars).utf8ByteSize = byteLength chars := by
  induction chars with
  | nil => rfl
  | cons char rest ih =>
    rw [String.ofList_cons, String.utf8ByteSize_append, String.utf8ByteSize_singleton, ih,
      byteLength_cons]

theorem byteLength_toList (text : String) : byteLength text.toList = text.utf8ByteSize := by
  rw [← utf8ByteSize_ofList, String.ofList_toList]

theorem byteLength_pos {chars : List Char} (nonempty : chars ≠ []) : 0 < byteLength chars := by
  cases chars with
  | nil => contradiction
  | cons char chars => exact Nat.add_pos_left char.utf8Size_pos _

theorem append_inj_of_byteLength {first second rest rest' : List Char}
    (same : first ++ rest = second ++ rest') (length : byteLength first = byteLength second) :
    first = second := by
  induction first generalizing second with
  | nil =>
    cases second with
    | nil => rfl
    | cons char second =>
      have positive := char.utf8Size_pos
      simp only [byteLength_nil, byteLength_cons] at length
      omega
  | cons char first ih =>
    cases second with
    | nil =>
      have positive := char.utf8Size_pos
      simp only [byteLength_nil, byteLength_cons] at length
      omega
    | cons char' second =>
      obtain ⟨head, tail⟩ := List.cons.inj same
      subst head
      rw [ih tail (Nat.add_left_cancel length)]

theorem byteLength_dropBytes_le (count : Nat) (chars : List Char) :
    byteLength (dropBytes count chars) ≤ byteLength chars := by
  induction chars generalizing count with
  | nil => simp
  | cons char rest ih =>
    simp only [dropBytes]
    split
    · exact Nat.le_refl _
    · split
      · have shorter := ih (count - char.utf8Size)
        rw [byteLength_cons]
        omega
      · exact Nat.zero_le _

namespace Cursor

theorem byteLength_rest_le (cursor : Cursor) :
    byteLength cursor.rest ≤ cursor.text.utf8ByteSize := by
  rw [cursor.rest_eq, ← byteLength_toList]
  exact byteLength_dropBytes_le _ _

@[simp] theorem advance_zero (cursor : Cursor) : cursor.advance 0 = cursor := by
  apply ext <;> simp

theorem advance_advance (cursor : Cursor) (first second : Nat) :
    (cursor.advance first).advance second = cursor.advance (first + second) := by
  apply ext
  · rfl
  · simp [List.take_add, byteLength_append, Nat.add_assoc]

/-- What remains shrinks by as many bytes as the position grows. -/
theorem position_add_byteLength_rest (cursor : Cursor) (count : Nat) :
    (cursor.advance count).position + byteLength (cursor.advance count).rest =
      cursor.position + byteLength cursor.rest := by
  have split : byteLength cursor.rest =
      byteLength (cursor.rest.take count) + byteLength (cursor.rest.drop count) := by
    rw [← byteLength_append, List.take_append_drop]
  simp only [position_advance, rest_advance]
  omega

end Cursor

end Text

namespace State

variable {α β γ : Type}

theorem failedFatally_of_running {state : State α} (running : state.failed = false) :
    state.failedFatally = false := by
  have none : state.error = none := by simpa [State.failed] using running
  simp [State.failedFatally, none]

theorem failed_of_failedFatally {state : State α} (fatal : state.failedFatally = true) :
    state.failed = true := by
  cases failed : state.failed with
  | true => rfl
  | false => simp [failedFatally_of_running failed] at fatal

theorem prepend_of_failed (item : Output α) {state : State α} (failed : state.failed = true) :
    state.prepend item = state := by
  simp [State.prepend, failed]

theorem requireItems_of_failed (failure : Nat → Failure) {state : State α}
    (failed : state.failed = true) : state.requireItems failure = state := by
  simp [State.requireItems, failed]

/-- The second state has moved forward from the first, over characters that remained there, and has
as many rules open. -/
def Advances (before : State α) (after : State β) : Prop :=
  (∃ count, after.cursor = before.cursor.advance count) ∧ after.depth = before.depth

namespace Advances

theorem stay {before : State α} {after : State β} (cursor : after.cursor = before.cursor)
    (depth : after.depth = before.depth) : before.Advances after :=
  ⟨⟨0, by simp [cursor]⟩, depth⟩

theorem trans {first : State α} {second : State β} {third : State γ}
    (one : first.Advances second) (two : second.Advances third) : first.Advances third := by
  obtain ⟨⟨count, moved⟩, depth⟩ := one
  obtain ⟨⟨count', moved'⟩, depth'⟩ := two
  refine ⟨⟨count + count', ?_⟩, depth'.trans depth⟩
  rw [moved', moved, Text.Cursor.advance_advance]

theorem cleared {before : State α} {after : State β} (forward : before.Advances after) :
    before.Advances (after.cleared : State γ) := forward

theorem prepend {before : State α} {after : State β} (forward : before.Advances after)
    (item : Output β) : before.Advances (after.prepend item) := by
  unfold State.prepend
  split
  · exact forward
  · split <;> exact forward

theorem requireItems {before : State α} {after : State β} (forward : before.Advances after)
    (failure : Nat → Failure) : before.Advances (after.requireItems failure) := by
  unfold State.requireItems
  split <;> exact forward

/-- The text is the same, and the bytes that are consumed no longer remain. -/
theorem position_add {before : State α} {after : State β} (forward : before.Advances after) :
    after.position + Text.byteLength after.rest =
      before.position + Text.byteLength before.rest := by
  obtain ⟨⟨count, moved⟩, _⟩ := forward
  simp only [State.position, State.rest, moved]
  exact Text.Cursor.position_add_byteLength_rest before.cursor count

theorem position_le {before : State α} {after : State β} (forward : before.Advances after) :
    before.position ≤ after.position := by
  obtain ⟨⟨count, moved⟩, _⟩ := forward
  simp [State.position, moved]

theorem text_eq {before : State α} {after : State β} (forward : before.Advances after) :
    after.text = before.text := by
  obtain ⟨⟨count, moved⟩, _⟩ := forward
  simp [State.text, moved]

end Advances

end State

namespace Parser

variable {R : Type → Type} {α β σ : Type}

/-- Built from the matchers and the combinators alone, and so are all parsers chosen by a result. -/
inductive Standard : {α : Type} → Parser R α → Prop where
  | literal (expected : String) : Standard (.literal expected)
  | pattern (expected : Pattern) : Standard (.pattern expected)
  | run (kind : CharRun) : Standard (.run kind)
  | sequence {α : Type} {parsers : List (Parser R α)} :
      (∀ parser ∈ parsers, Standard parser) → Standard (.sequence (.ofList parsers))
  | choice {α : Type} {alternatives : List (Parser R α)} :
      (∀ parser ∈ alternatives, Standard parser) → Standard (.choice (.ofList alternatives))
  | many {α : Type} {body : Parser R α} : Standard body → Standard (.many body)
  | many1 {α : Type} {body : Parser R α} : Standard body → Standard (.many1 body)
  | sepBy {σ α : Type} {separator : Parser R σ} {value : Parser R α} :
      Standard separator → Standard value → Standard (.sepBy separator value)
  | sepBy1 {σ α : Type} {separator : Parser R σ} {value : Parser R α} :
      Standard separator → Standard value → Standard (.sepBy1 separator value)
  | between {l r α : Type} {left : Parser R l} {right : Parser R r} {content : Parser R α} :
      Standard left → Standard right → Standard content → Standard (.between left right content)
  | lazy {α : Type} (cell : Nat) (limit : UInt64) (rule : R α) : Standard (.lazy cell limit rule)
  | named {α : Type} (name : String) {parser : Parser R α} :
      Standard parser → Standard (.named name parser)
  | map {α β : Type} {parser : Parser R α} (f : Output α → Output β) :
      Standard parser → Standard (.map parser f)
  | chain {α β : Type} {parser : Parser R α} {next : Output α → Parser R β} :
      Standard parser → (∀ output, Standard (next output)) → Standard (.chain parser next)
  | errorMap {α : Type} {parser : Parser R α} (message : Failure → Nat → String) :
      Standard parser → Standard (.errorMap parser message)

end Parser

/-- All rules of the grammar are standard parsers. -/
def Grammar.Standard {R : Type → Type} (grammar : Grammar R) : Prop :=
  ∀ (α : Type) (rule : R α), (grammar α rule).Standard

namespace Brackets

variable {R : Type → Type}

theorem nestedWithin_standard (limit : UInt64) (cell : Nat) (value : R String) :
    (nestedWithin limit cell value).Standard :=
  .named _ (.between (.literal _) (.literal _) (.sepBy (.literal _) (.named _ (.lazy ..))))

theorem grammarWithin_standard (limit : UInt64) : (grammarWithin limit).Standard
  | _, .value => by
    refine .choice ?_
    simpa using ⟨nestedWithin_standard .., .run .letters, .run .digits⟩

/-- Words whose rule begins with itself. -/
def leftRecursive (limit : UInt64) : Grammar Rule
  | _, .value => .choice (.ofList [.sequence (.ofList [.lazy 0 limit .value, .letters]), .letters])

theorem leftRecursive_standard (limit : UInt64) : (leftRecursive limit).Standard
  | _, .value => by
    refine .choice ?_
    simpa using ⟨.sequence (by simpa using ⟨.lazy .., .run .letters⟩), .run .letters⟩

/-- Such words under a loop and a choice, which go on after every failure but a fatal one. -/
def leftRecursiveWords (limit : UInt64) : Parser Rule String :=
  .choice (.ofList [.many (.errorMap (.lazy 0 limit .value) fun _ _ => "no word"), .letters])

theorem leftRecursiveWords_standard (limit : UInt64) : (leftRecursiveWords limit).Standard := by
  refine .choice ?_
  simpa using ⟨.many (.errorMap _ (.lazy ..)), .run .letters⟩

end Brackets

namespace Parser

variable {R : Type → Type} {α β σ : Type}

@[simp] theorem value_application (state : State α) (work : Traced (State α)) :
    (application state work).value = work.value := rfl

theorem value_unlessFailed (state : State α) (work : Traced (State α)) :
    (unlessFailed state work).value = if state.failed then state.cleared else work.value := by
  unfold unlessFailed
  split <;> rfl

theorem value_unlessFailed_of_failed {state : State α} (failed : state.failed = true)
    (work : Traced (State α)) : (unlessFailed state work).value = state.cleared :=
  (value_unlessFailed state work).trans (if_pos failed)

theorem value_unlessFailed_of_running {state : State α} (running : state.failed = false)
    (work : Traced (State α)) : (unlessFailed state work).value = work.value :=
  (value_unlessFailed state work).trans (if_neg (by simp [running]))

/-- How a rule is entered when its body is applied with so many rules inside each other. -/
def enterBody (grammar : Grammar R) (levels : Nat) : Enter R := fun {α} address rule state => do
  let body := grammar α rule
  Traced.emit (.entered address body.name)
  let after ← traceLevels grammar levels address body state
  Traced.emit .left
  return after

theorem traceLevels_succ (grammar : Grammar R) (levels : Nat) (scope : Address)
    (parser : Parser R α) (state : State α) :
    traceLevels grammar (levels + 1) scope parser state =
      traceWith (enterBody grammar levels) scope parser state := rfl

/-- A parse begins with more levels than any limit admits. -/
theorem parse_eq_traceLevels (grammar : Grammar R) (parser : Parser R α) (text : String) :
    ∃ levels, (∀ limit : UInt64, limit.toNat < levels + 1) ∧
      parser.parse grammar text =
        (traceLevels grammar (levels + 1) [] parser (.start text)).value :=
  ⟨UInt64.size - 1, UInt64.toNat_lt, rfl⟩

@[simp] theorem value_enterBody (grammar : Grammar R) (levels : Nat) (address : Address)
    (rule : R α) (state : State α) :
    (enterBody grammar levels address rule state).value =
      (traceLevels grammar levels address (grammar α rule) state).value := rfl

theorem rest_start (text : String) : (State.start text : State α).rest = text.toList :=
  Text.dropBytes_zero _

theorem byteLength_rest_lt_stepBound (state : State α) :
    Text.byteLength state.rest < stepBound state := by
  have fits := state.cursor.byteLength_rest_le
  have positive : 0 < UInt64.size := by decide
  simp only [stepBound, State.rest, State.text]
  omega

/-! ## Moving forward -/

theorem matchLiteral_advances (expected : String) (state : State String) :
    state.Advances (matchLiteral expected state).value := by
  simp only [matchLiteral, Traced.value_bind]
  split
  · exact .stay rfl rfl
  · split
    · exact ⟨⟨_, rfl⟩, rfl⟩
    · exact .stay rfl rfl

theorem matchPattern_advances (source : String) (matchLength? : List Char → Option Nat)
    (state : State String) : state.Advances (matchPattern source matchLength? state).value := by
  simp only [matchPattern, Traced.value_bind]
  split
  · exact .stay rfl rfl
  · split
    · exact ⟨⟨_, rfl⟩, rfl⟩
    · exact .stay rfl rfl

theorem repeatFrom_advances {step : State α → Traced (State α)}
    (forward : ∀ state : State α, state.Advances (step state).value) (bound : Nat) (state : State α) :
    state.Advances (repeatFrom step bound state).value := by
  induction bound generalizing state with
  | zero => exact .stay rfl rfl
  | succ bound ih =>
    simp only [repeatFrom, Traced.value_bind]
    have next := forward state
    split
    · exact next
    · split
      · exact .stay rfl rfl
      · split
        · exact next
        · exact next.trans ((ih _).prepend _)

theorem separateFrom_advances {separator : State σ → Traced (State σ)}
    {value : State α → Traced (State α)}
    (separatorForward : ∀ state : State σ, state.Advances (separator state).value)
    (valueForward : ∀ state : State α, state.Advances (value state).value) (bound : Nat)
    (state : State α) : state.Advances (separateFrom separator value bound state).value := by
  induction bound generalizing state with
  | zero => exact .stay rfl rfl
  | succ bound ih =>
    simp only [separateFrom, Traced.value_bind]
    have afterValue := valueForward state
    split
    · exact afterValue
    · split
      · exact .stay rfl rfl
      · have afterSeparator := afterValue.cleared.trans (separatorForward _)
        simp only [Traced.value_bind]
        split
        · exact afterSeparator
        · split
          · exact afterValue
          · split
            · exact afterSeparator
            · exact afterSeparator.cleared.trans ((ih _).prepend _)

/-- A part moves forward, and so does what follows it. -/
theorem bind_cleared_advances {before : State σ} {first : Traced (State α)}
    {next : State α → Traced (State β)} (moved : before.Advances first.value)
    (goesOn : before.Advances (next first.value).value) :
    before.Advances (do
      let after ← first
      if after.failed then return after.cleared else next after).value := by
  rw [Traced.value_bind]
  split
  · exact moved
  · exact goesOn

variable {enter : Enter R} {scope : Address}

theorem sequenceWith_advances {parsers : List (Parser R α)}
    (forward : ∀ parser ∈ parsers, ∀ state : State α,
      state.Advances (traceWith enter scope parser state).value) (state : State α) :
    state.Advances (sequenceWith enter scope (.ofList parsers) state).value := by
  induction parsers generalizing state with
  | nil => exact .stay rfl rfl
  | cons parser rest ih =>
    have next := forward parser (by simp) state
    have rest := ih fun parser member => forward parser (by simp [member])
    exact bind_cleared_advances next (next.trans ((rest (State.cleared _)).prepend _))

theorem chooseWith_advances {alternatives : List (Parser R α)}
    (forward : ∀ parser ∈ alternatives, ∀ state : State α,
      state.Advances (traceWith enter scope parser state).value) (state : State α) :
    state.Advances (chooseWith enter scope (.ofList alternatives) state).value := by
  induction alternatives with
  | nil => exact .stay rfl rfl
  | cons parser rest ih =>
    simp only [Parsers.ofList, chooseWith, Traced.value_bind]
    split
    · exact forward parser (by simp) state
    · exact ih fun parser member => forward parser (by simp [member])

theorem advances_unlessFailed {state : State α} {work : Traced (State α)}
    (forward : state.Advances work.value) :
    state.Advances (application state (unlessFailed state work)).value := by
  rw [value_application, value_unlessFailed]
  split
  · exact .stay rfl rfl
  · exact forward

theorem traceWith_advances
    (enters : ∀ {α : Type} (address : Address) (rule : R α) (state : State α),
      state.Advances (enter address rule state).value)
    (scope : Address) {parser : Parser R α} (standard : parser.Standard) (state : State α) :
    state.Advances (traceWith enter scope parser state).value := by
  induction standard with
  | literal expected => exact advances_unlessFailed (matchLiteral_advances ..)
  | pattern expected => exact advances_unlessFailed (matchPattern_advances ..)
  | run kind => exact advances_unlessFailed (matchPattern_advances ..)
  | sequence _ ih => exact advances_unlessFailed (sequenceWith_advances ih state.cleared)
  | choice _ ih => exact advances_unlessFailed (chooseWith_advances ih state)
  | many _ ih => exact advances_unlessFailed (repeatFrom_advances ih _ state.cleared)
  | many1 _ ih =>
    exact advances_unlessFailed ((repeatFrom_advances ih _ state.cleared).requireItems _)
  | sepBy _ _ separator value =>
    exact advances_unlessFailed (separateFrom_advances separator value _ state.cleared)
  | sepBy1 _ _ separator value =>
    have list := separateFrom_advances separator value (stepBound state) state.cleared
    exact advances_unlessFailed (list.requireItems _)
  | between _ _ _ left right content =>
    have afterLeft := left state.cleared
    have afterContent := afterLeft.cleared.trans (content _)
    have afterRight := afterContent.cleared.trans (right _)
    exact advances_unlessFailed (bind_cleared_advances afterLeft
      (bind_cleared_advances afterContent (bind_cleared_advances afterRight afterRight)))
  | lazy cell limit rule =>
    apply advances_unlessFailed
    split
    · exact .stay rfl rfl
    · have inside := enters (cell :: scope) rule (state.cleared.atDepth (state.depth + 1))
      exact ⟨inside.1, rfl⟩
  | named _ _ ih => exact ih state
  | map f _ ih =>
    have after := ih state.cleared
    simp only [traceWith, value_application, Traced.value_bind]
    split <;> exact after
  | chain _ _ first second =>
    have after := first state.cleared
    simp only [traceWith, value_application, Traced.value_bind]
    split
    · exact after
    · exact after.trans (second _ _)
  | errorMap message _ ih =>
    have after := ih state
    simp only [traceWith, value_application, Traced.value_bind]
    split <;> exact after

theorem traceLevels_advances {grammar : Grammar R} (rules : grammar.Standard) (levels : Nat)
    (scope : Address) {parser : Parser R α} (standard : parser.Standard) (state : State α) :
    state.Advances (traceLevels grammar levels scope parser state).value := by
  induction levels generalizing α scope with
  | zero => exact .stay rfl rfl
  | succ levels ih =>
    rw [traceLevels_succ]
    refine traceWith_advances ?_ scope standard state
    intro α address rule state
    exact ih address (rules α rule) state

/-- A standard parser moves forward and leaves as many rules open as it finds. -/
theorem apply_advances {grammar : Grammar R} (rules : grammar.Standard) {parser : Parser R α}
    (standard : parser.Standard) (state : State α) :
    state.Advances (parser.apply grammar state) :=
  traceLevels_advances rules allLevels [] standard state

end Parser

end Descent
