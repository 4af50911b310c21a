import Descent.Proofs.Ending

set_option autoImplicit false

/-!
Limits show only through too deep a nesting.

A parse that does not fail fatally stays the same if limits are raised and if it starts with fewer
rules open: `Follows` says that the second of two outcomes is the first one at another depth, unless
the first is fatal, and every combinator keeps this of its parts.
-/

namespace Descent

namespace State

variable {α β : Type}

@[simp] theorem failed_atDepth (state : State α) (depth : Nat) :
    (state.atDepth depth).failed = state.failed := rfl

@[simp] theorem failedFatally_atDepth (state : State α) (depth : Nat) :
    (state.atDepth depth).failedFatally = state.failedFatally := rfl

@[simp] theorem cursor_atDepth (state : State α) (depth : Nat) :
    (state.atDepth depth).cursor = state.cursor := rfl

@[simp] theorem result_atDepth (state : State α) (depth : Nat) :
    (state.atDepth depth).result = state.result := rfl

@[simp] theorem error_atDepth (state : State α) (depth : Nat) :
    (state.atDepth depth).error = state.error := rfl

theorem prepend_atDepth (item : Output α) (state : State α) (depth : Nat) :
    (state.atDepth depth).prepend item = (state.prepend item).atDepth depth := by
  unfold State.prepend
  rw [failed_atDepth, result_atDepth]
  split
  · rfl
  · split <;> rfl

theorem requireItems_atDepth (failure : Nat → Failure) (state : State α) (depth : Nat) :
    (state.atDepth depth).requireItems failure = (state.requireItems failure).atDepth depth := by
  unfold State.requireItems
  rw [failed_atDepth, result_atDepth]
  split <;> rfl

theorem Advances.le_depth {before : State α} {after : State β} (forward : before.Advances after)
    {depth : Nat} (shallower : depth ≤ before.depth) : depth ≤ after.depth := by
  rw [forward.2]
  exact shallower

/-- The second outcome is the first at another depth, unless the first is fatal. -/
def Follows (depth : Nat) (first second : State α) : Prop :=
  first.failedFatally = false → second = first.atDepth depth

namespace Follows

theorem same (depth : Nat) (state : State α) : Follows depth state (state.atDepth depth) :=
  fun _ => rfl

theorem of_fatal {depth : Nat} {first second : State α} (fatal : first.failedFatally = true) :
    Follows depth first second :=
  fun calm => absurd calm (by simp [fatal])

theorem fatal_or_eq {depth : Nat} {first second : State α} (follows : Follows depth first second) :
    first.failedFatally = true ∨ second = first.atDepth depth := by
  cases fatal : first.failedFatally with
  | true => exact .inl rfl
  | false => exact .inr (follows fatal)

/-- Both runs take the same way at a branch. -/
theorem ite {depth : Nat} {c c' : Prop} [Decidable c] [Decidable c'] (same : c ↔ c')
    {yes yes' no no' : Traced (State α)} (whenYes : c → Follows depth yes.value yes'.value)
    (whenNo : ¬c → Follows depth no.value no'.value) :
    Follows depth (if c then yes else no).value (if c' then yes' else no').value := by
  by_cases holds : c
  · rw [if_pos holds, if_pos (same.mp holds)]
    exact whenYes holds
  · rw [if_neg holds, if_neg (mt same.mpr holds)]
    exact whenNo holds

theorem prepend {depth : Nat} {first second : State α} (follows : Follows depth first second)
    (item : Output α) : Follows depth (first.prepend item) (second.prepend item) := by
  rcases follows.fatal_or_eq with fatal | rfl
  · rw [prepend_of_failed item (failed_of_failedFatally fatal)]
    exact of_fatal fatal
  · rw [prepend_atDepth]
    exact same depth _

theorem requireItems {depth : Nat} {first second : State α} (follows : Follows depth first second)
    (failure : Nat → Failure) :
    Follows depth (first.requireItems failure) (second.requireItems failure) := by
  rcases follows.fatal_or_eq with fatal | rfl
  · rw [requireItems_of_failed failure (failed_of_failedFatally fatal)]
    exact of_fatal fatal
  · rw [requireItems_atDepth]
    exact same depth _

/-- The depths at which a rule is left may be any. -/
theorem leave {depth : Nat} {first second : State α} (follows : Follows depth first second)
    (outer outer' : Nat) : Follows outer' (first.atDepth outer) (second.atDepth outer') := by
  rcases follows.fatal_or_eq with fatal | rfl
  · exact of_fatal fatal
  · exact fun _ => rfl

end Follows

end State

namespace Parser

open State (Follows)

variable {R : Type → Type} {α β σ : Type}

/-- The second parser is the first with some limits raised, and both are built from the matchers and
the combinators alone. -/
inductive Raises : {α : Type} → Parser R α → Parser R α → Prop where
  | literal (expected : String) : Raises (.literal expected) (.literal expected)
  | pattern (expected : Pattern) : Raises (.pattern expected) (.pattern expected)
  | run (kind : CharRun) : Raises (.run kind) (.run kind)
  | sequence {α : Type} {pairs : List (Parser R α × Parser R α)} :
      (∀ pair ∈ pairs, Raises pair.1 pair.2) →
      Raises (.sequence (.ofList (pairs.map Prod.fst))) (.sequence (.ofList (pairs.map Prod.snd)))
  | choice {α : Type} {pairs : List (Parser R α × Parser R α)} :
      (∀ pair ∈ pairs, Raises pair.1 pair.2) →
      Raises (.choice (.ofList (pairs.map Prod.fst))) (.choice (.ofList (pairs.map Prod.snd)))
  | many {α : Type} {body body' : Parser R α} : Raises body body' → Raises (.many body) (.many body')
  | many1 {α : Type} {body body' : Parser R α} :
      Raises body body' → Raises (.many1 body) (.many1 body')
  | sepBy {σ α : Type} {separator separator' : Parser R σ} {value value' : Parser R α} :
      Raises separator separator' → Raises value value' →
      Raises (.sepBy separator value) (.sepBy separator' value')
  | sepBy1 {σ α : Type} {separator separator' : Parser R σ} {value value' : Parser R α} :
      Raises separator separator' → Raises value value' →
      Raises (.sepBy1 separator value) (.sepBy1 separator' value')
  | between {l r α : Type} {left left' : Parser R l} {right right' : Parser R r}
      {content content' : Parser R α} :
      Raises left left' → Raises right right' → Raises content content' →
      Raises (.between left right content) (.between left' right' content')
  | lazy {α : Type} (cell : Nat) {limit limit' : UInt64} (rule : R α) :
      limit ≤ limit' → Raises (.lazy cell limit rule) (.lazy cell limit' rule)
  | named {α : Type} (name : String) {parser parser' : Parser R α} :
      Raises parser parser' → Raises (.named name parser) (.named name parser')
  | map {α β : Type} {parser parser' : Parser R α} (f : Output α → Output β) :
      Raises parser parser' → Raises (.map parser f) (.map parser' f)
  | chain {α β : Type} {parser parser' : Parser R α} {next next' : Output α → Parser R β} :
      Raises parser parser' → (∀ output, Raises (next output) (next' output)) →
      Raises (.chain parser next) (.chain parser' next')
  | errorMap {α : Type} {parser parser' : Parser R α} (message : Failure → Nat → String) :
      Raises parser parser' → Raises (.errorMap parser message) (.errorMap parser' message)

theorem Raises.standard {parser parser' : Parser R α} (raises : Raises parser parser') :
    parser.Standard := by
  induction raises with
  | literal expected => exact .literal expected
  | pattern expected => exact .pattern expected
  | run kind => exact .run kind
  | sequence _ ih => exact .sequence (by simpa using fun first second => ih (first, second))
  | choice _ ih => exact .choice (by simpa using fun first second => ih (first, second))
  | many _ ih => exact .many ih
  | many1 _ ih => exact .many1 ih
  | sepBy _ _ separator value => exact .sepBy separator value
  | sepBy1 _ _ separator value => exact .sepBy1 separator value
  | between _ _ _ left right content => exact .between left right content
  | lazy cell rule => exact .lazy cell _ rule
  | named name _ ih => exact .named name ih
  | map f _ ih => exact .map f ih
  | chain _ _ first second => exact .chain first second
  | errorMap message _ ih => exact .errorMap message ih

/-- A part whose failure is that of the whole, and what is done after its success. -/
theorem bind_cleared_follows {depth : Nat} {first first' : Traced (State α)}
    {next next' : State α → Traced (State β)} (follows : Follows depth first.value first'.value)
    (goesOn : first.value.failed = false →
      Follows depth (next first.value).value (next' (first.value.atDepth depth)).value) :
    Follows depth
      (do let after ← first; if after.failed then return after.cleared else next after).value
      (do let after ← first'; if after.failed then return after.cleared else next' after).value := by
  simp only [Traced.value_bind]
  rcases follows.fatal_or_eq with fatal | same
  · rw [if_pos (State.failed_of_failedFatally fatal)]
    exact .of_fatal fatal
  · rw [same]
    refine .ite Iff.rfl (fun _ => .same depth _) fun running => ?_
    exact goesOn (by simpa using running)

/-- A part that is recovered from unless its failure is fatal, and what is done after it. -/
theorem bind_calm_follows {depth : Nat} {first first' : Traced (State α)}
    {next next' : State α → Traced (State β)} (follows : Follows depth first.value first'.value)
    (goesOn : Follows depth (next first.value).value (next' (first.value.atDepth depth)).value) :
    Follows depth
      (do let after ← first; if after.failedFatally then return after.cleared else next after).value
      (do
        let after ← first'
        if after.failedFatally then return after.cleared else next' after).value := by
  simp only [Traced.value_bind]
  rcases follows.fatal_or_eq with fatal | same
  · rw [if_pos fatal]
    exact .of_fatal fatal
  · rw [same]
    exact .ite Iff.rfl (fun _ => .same depth _) fun _ => goesOn

theorem repeatFrom_follows {depth : Nat} {step step' : State α → Traced (State α)}
    (forward : ∀ state : State α, state.Advances (step state).value)
    (follows : ∀ state : State α, depth ≤ state.depth →
      Follows depth (step state).value (step' (state.atDepth depth)).value)
    (bound : Nat) (state : State α) (shallower : depth ≤ state.depth) :
    Follows depth (repeatFrom step bound state).value
      (repeatFrom step' bound (state.atDepth depth)).value := by
  induction bound generalizing state with
  | zero => exact fun _ => rfl
  | succ bound ih =>
    refine bind_calm_follows (follows state shallower) ?_
    refine .ite Iff.rfl (fun _ => .same depth _) fun _ => ?_
    refine .ite Iff.rfl (fun _ => .same depth _) fun _ => ?_
    exact (ih (State.cleared _) ((forward state).le_depth shallower)).prepend _

theorem separateFrom_follows {depth : Nat} {separator separator' : State σ → Traced (State σ)}
    {value value' : State α → Traced (State α)}
    (separatorForward : ∀ state : State σ, state.Advances (separator state).value)
    (valueForward : ∀ state : State α, state.Advances (value state).value)
    (separatorFollows : ∀ state : State σ, depth ≤ state.depth →
      Follows depth (separator state).value (separator' (state.atDepth depth)).value)
    (valueFollows : ∀ state : State α, depth ≤ state.depth →
      Follows depth (value state).value (value' (state.atDepth depth)).value)
    (bound : Nat) (state : State α) (shallower : depth ≤ state.depth) :
    Follows depth (separateFrom separator value bound state).value
      (separateFrom separator' value' bound (state.atDepth depth)).value := by
  induction bound generalizing state with
  | zero => exact fun _ => rfl
  | succ bound ih =>
    refine bind_calm_follows (valueFollows state shallower) ?_
    refine .ite Iff.rfl (fun _ => .same depth _) fun _ => ?_
    have shallower := (valueForward state).le_depth shallower
    refine bind_calm_follows (separatorFollows (State.cleared _) shallower) ?_
    refine .ite Iff.rfl (fun _ => .same depth _) fun _ => ?_
    refine .ite Iff.rfl (fun _ => .same depth _) fun _ => ?_
    exact (ih (State.cleared _) ((separatorForward (State.cleared _)).le_depth shallower)).prepend _

variable {enter enter' : Enter R} {scope : Address}

theorem sequenceWith_follows {depth : Nat} {pairs : List (Parser R α × Parser R α)}
    (forward : ∀ pair ∈ pairs, ∀ state : State α,
      state.Advances (traceWith enter scope pair.1 state).value)
    (follows : ∀ pair ∈ pairs, ∀ state : State α, depth ≤ state.depth →
      Follows depth (traceWith enter scope pair.1 state).value
        (traceWith enter' scope pair.2 (state.atDepth depth)).value)
    (state : State α) (shallower : depth ≤ state.depth) :
    Follows depth (sequenceWith enter scope (.ofList (pairs.map Prod.fst)) state).value
      (sequenceWith enter' scope (.ofList (pairs.map Prod.snd)) (state.atDepth depth)).value := by
  induction pairs generalizing state with
  | nil => exact .same depth _
  | cons pair rest ih =>
    have moved := forward pair (by simp) state
    simp only [List.map_cons, Parsers.ofList, sequenceWith]
    refine bind_cleared_follows (follows pair (by simp) state shallower) fun _ => ?_
    refine (ih ?_ ?_ (State.cleared _) (moved.le_depth shallower)).prepend _
    · exact fun pair member => forward pair (by simp [member])
    · exact fun pair member => follows pair (by simp [member])

theorem chooseWith_follows {depth : Nat} {pairs : List (Parser R α × Parser R α)}
    (follows : ∀ pair ∈ pairs, ∀ state : State α, depth ≤ state.depth →
      Follows depth (traceWith enter scope pair.1 state).value
        (traceWith enter' scope pair.2 (state.atDepth depth)).value)
    (state : State α) (shallower : depth ≤ state.depth) :
    Follows depth (chooseWith enter scope (.ofList (pairs.map Prod.fst)) state).value
      (chooseWith enter' scope (.ofList (pairs.map Prod.snd)) (state.atDepth depth)).value := by
  induction pairs with
  | nil => exact .same depth _
  | cons pair rest ih =>
    have same := follows pair (by simp) state shallower
    simp only [List.map_cons, Parsers.ofList, chooseWith, Traced.value_bind]
    generalize (traceWith enter scope pair.1 state).value = next at *
    generalize (traceWith enter' scope pair.2 (state.atDepth depth)).value = next' at *
    rcases same.fatal_or_eq with fatal | rfl
    · rw [if_pos (by simp [fatal])]
      exact .of_fatal fatal
    · refine .ite Iff.rfl (fun _ => .same depth _) fun _ => ?_
      exact ih fun pair member => follows pair (by simp [member])

theorem follows_unlessFailed {depth : Nat} {state : State α} {work work' : Traced (State α)}
    (follows : Follows depth work.value work'.value) :
    Follows depth (application state (unlessFailed state work)).value
      (application (state.atDepth depth) (unlessFailed (state.atDepth depth) work')).value :=
  .ite Iff.rfl (fun _ => .same depth _) fun _ => follows

theorem matchLiteral_follows (expected : String) (state : State String) (depth : Nat) :
    Follows depth (matchLiteral expected state).value
      (matchLiteral expected (state.atDepth depth)).value := by
  refine .ite Iff.rfl (fun _ => .same depth _) fun _ => ?_
  exact .ite Iff.rfl (fun _ => .same depth _) fun _ => .same depth _

theorem matchPattern_follows (source : String) (matchLength? : List Char → Option Nat)
    (state : State String) (depth : Nat) :
    Follows depth (matchPattern source matchLength? state).value
      (matchPattern source matchLength? (state.atDepth depth)).value := by
  refine .ite Iff.rfl (fun _ => .same depth _) fun _ => ?_
  simp only [State.rest, State.cursor_atDepth]
  split <;> exact .same depth _

theorem traceWith_follows
    (forward : ∀ {α : Type} (address : Address) (rule : R α) (state : State α),
      state.Advances (enter address rule state).value)
    (enters : ∀ {α : Type} (address : Address) (rule : R α) (state : State α) (depth : Nat),
      depth ≤ state.depth →
      Follows depth (enter address rule state).value
        (enter' address rule (state.atDepth depth)).value)
    {depth : Nat} {parser parser' : Parser R α} (raises : Raises parser parser') (state : State α)
    (shallower : depth ≤ state.depth) :
    Follows depth (traceWith enter scope parser state).value
      (traceWith enter' scope parser' (state.atDepth depth)).value := by
  induction raises with
  | literal expected => exact follows_unlessFailed (matchLiteral_follows expected state depth)
  | pattern expected => exact follows_unlessFailed (matchPattern_follows _ _ state depth)
  | run kind => exact follows_unlessFailed (matchPattern_follows _ _ state depth)
  | sequence raises ih =>
    refine follows_unlessFailed (sequenceWith_follows ?_ ih state.cleared shallower)
    exact fun pair member => traceWith_advances forward scope (raises pair member).standard
  | choice _ ih => exact follows_unlessFailed (chooseWith_follows ih state shallower)
  | many raises ih =>
    have forward := traceWith_advances forward scope raises.standard
    exact follows_unlessFailed (repeatFrom_follows forward ih _ state.cleared shallower)
  | many1 raises ih =>
    have forward := traceWith_advances forward scope raises.standard
    have loop := repeatFrom_follows forward ih (stepBound state) state.cleared shallower
    exact follows_unlessFailed (loop.requireItems _)
  | sepBy separatorRaises valueRaises separator value =>
    have separatorForward := traceWith_advances forward scope separatorRaises.standard
    have valueForward := traceWith_advances forward scope valueRaises.standard
    exact follows_unlessFailed (separateFrom_follows separatorForward valueForward separator value
      (stepBound state) state.cleared shallower)
  | sepBy1 separatorRaises valueRaises separator value =>
    have separatorForward := traceWith_advances forward scope separatorRaises.standard
    have valueForward := traceWith_advances forward scope valueRaises.standard
    have list := separateFrom_follows separatorForward valueForward separator value
      (stepBound state) state.cleared shallower
    exact follows_unlessFailed (list.requireItems _)
  | between leftRaises _ contentRaises left right content =>
    apply follows_unlessFailed
    have forward {α : Type} {parser parser' : Parser R α} (raises : Raises parser parser') :=
      traceWith_advances forward scope raises.standard
    refine bind_cleared_follows (left state.cleared shallower) fun opened => ?_
    have deep := (forward leftRaises state.cleared).le_depth shallower
    refine bind_cleared_follows (content _ deep) fun filled => ?_
    have deep := (forward contentRaises (State.cleared _)).le_depth deep
    refine bind_cleared_follows (right _ deep) fun closed => ?_
    exact .same depth _
  | @lazy α cell limit limit' rule higher =>
    apply follows_unlessFailed
    by_cases deep : limit.toNat ≤ state.depth
    · rw [if_pos deep]
      refine .of_fatal ?_
      simp [State.failedFatally, Failure.isFatal, Failure.rootCause, Failure.isNesting]
    · -- The limit is no lower and the state no deeper, so that the other run may enter as well.
      have higher : limit.toNat ≤ limit'.toNat := UInt64.le_iff_toNat_le.mp higher
      have admitted : ¬limit'.toNat ≤ (state.atDepth depth).depth := by
        change ¬limit'.toNat ≤ depth
        omega
      rw [if_neg deep, if_neg admitted]
      have inside := enters (cell :: scope) rule (state.cleared.atDepth (state.depth + 1)) (depth + 1)
        (Nat.succ_le_succ shallower)
      exact inside.leave state.depth depth
  | named _ _ ih => exact ih state shallower
  | map f _ ih =>
    simp only [traceWith, value_application]
    refine bind_cleared_follows (ih state.cleared shallower) fun _ => ?_
    exact .same depth _
  | chain raises _ first second =>
    simp only [traceWith, value_application]
    refine bind_cleared_follows (first state.cleared shallower) fun _ => ?_
    -- Both runs hand the same output on, so that the parsers made of it differ in limits alone.
    have moved := traceWith_advances forward scope raises.standard state.cleared
    exact second _ _ (moved.le_depth shallower)
  | errorMap message _ ih =>
    simp only [traceWith, value_application, Traced.value_bind]
    rcases (ih state shallower).fatal_or_eq with fatal | same
    · cases error : (traceWith enter scope _ state).value.error with
      | none => simp [State.failedFatally, error] at fatal
      | some cause => exact .of_fatal (by simpa [State.failedFatally, error] using fatal)
    · rw [same]
      simp only [State.error_atDepth]
      split <;> exact .same depth _

theorem traceLevels_follows {grammar grammar' : Grammar R}
    (rules : ∀ (α : Type) (rule : R α), Raises (grammar α rule) (grammar' α rule)) (levels : Nat)
    (scope : Address) {depth : Nat} {parser parser' : Parser R α} (raises : Raises parser parser')
    (state : State α) (shallower : depth ≤ state.depth) :
    Follows depth (traceLevels grammar levels scope parser state).value
      (traceLevels grammar' levels scope parser' (state.atDepth depth)).value := by
  induction levels generalizing depth α scope with
  | zero => exact .same depth _
  | succ levels ih =>
    refine traceWith_follows ?_ ?_ raises state shallower
    · intro α address rule state
      exact traceLevels_advances (fun α rule => (rules α rule).standard) levels address
        (rules α rule).standard state
    · intro α address rule state depth shallower
      exact ih address (rules α rule) state shallower

/-- A parse that does not fail fatally stays the same if limits are raised and if fewer rules are
open, and it is the only one if limits are ignored. -/
theorem apply_eq_of_raises {grammar grammar' : Grammar R}
    (rules : ∀ (α : Type) (rule : R α), Raises (grammar α rule) (grammar' α rule))
    {parser parser' : Parser R α} (raises : Raises parser parser') {state : State α}
    (calm : (parser.apply grammar state).failedFatally = false) :
    (∀ depth ≤ state.depth, parser'.apply grammar' (state.atDepth depth) =
        (parser.apply grammar state).atDepth depth) ∧
      ∀ after, (∃ most, Ends ⟨grammar, false, most⟩ 0 (.parser parser) state after) ↔
        after = parser.apply grammar state := by
  constructor
  · intro depth shallower
    exact traceLevels_follows rules allLevels [] raises state shallower calm
  · have standard (α : Type) (rule : R α) := (rules α rule).standard
    have within (α : Type) (rule : R α) := (standard α rule).limitsWithin
    have ends : Ends ⟨grammar, false, _⟩ 0 (.parser parser) state _ :=
      apply_ends_within standard within raises.standard raises.standard.limitsWithin
        (Nat.le_add_right _ _) (.inr calm)
    intro after
    constructor
    · rintro ⟨most, other⟩
      exact other.unique ends
    · rintro rfl
      exact ⟨_, ends⟩

end Parser

namespace Brackets

variable {R : Type → Type}

theorem nestedWithin_raises {limit limit' : UInt64} (higher : limit ≤ limit') (cell : Nat)
    (value : R String) : (nestedWithin limit cell value).Raises (nestedWithin limit' cell value) :=
  .named _ (.between (.literal _) (.literal _)
    (.sepBy (.literal _) (.named _ (.lazy cell value higher))))

theorem grammarWithin_raises {limit limit' : UInt64} (higher : limit ≤ limit') :
    ∀ (α : Type) (rule : Rule α),
      (grammarWithin limit α rule).Raises (grammarWithin limit' α rule)
  | _, .value => by
    let pairs : List (Parser Rule String × Parser Rule String) :=
      [(nestedWithin limit 0 .value, nestedWithin limit' 0 .value), (.letters, .letters),
        (.digits, .digits)]
    have raises : ∀ pair ∈ pairs, pair.1.Raises pair.2 := by
      simpa [pairs] using ⟨nestedWithin_raises higher 0 Rule.value, .run .letters, .run .digits⟩
    exact .choice raises

/-- A list in a list, read with one rule open and with none. -/
theorem nested_eq_of_raises :
    (nested 0 .value).apply grammar (.start "[[a]]") =
      ((nestedWithin 3 0 .value).apply (grammarWithin 3)
        ((State.start "[[a]]").atDepth 1)).atDepth 0 := by
  have higher : (3 : UInt64) ≤ defaultLimit := by decide
  have raises := nestedWithin_raises higher 0 Rule.value
  have calm : ((nestedWithin 3 0 Rule.value).apply (grammarWithin 3)
    ((State.start "[[a]]").atDepth 1)).failedFatally = false := rfl
  exact (Parser.apply_eq_of_raises (grammarWithin_raises higher) raises calm).1 0 (Nat.zero_le 1)

end Brackets

end Descent
