import Descent.Proofs.Reading

set_option autoImplicit false

/-!
Where a delimiter is missing.

A literal that does not stand at a place is refused there. So a part between two delimiters that is
read without trouble itself fails for the lack of one of them, either at its start or after what has
been read inside. `State.Stops` says how far an application comes and which failure ends it.
-/

namespace Descent

namespace Failure

/-- The failure of a literal at a place where something else remains, or nothing. -/
def ofLiteral (expected : String) (rest : List Char) (position : Nat) : Failure :=
  if rest = [] then .unexpectedEnd Matcher.literal.word (Text.quoted expected) position
  else .literalMismatch expected (preview rest) position

theorem isFatal_ofLiteral (expected : String) (rest : List Char) (position : Nat) :
    (ofLiteral expected rest position).isFatal = false := by
  unfold ofLiteral
  split <;> rfl

end Failure

namespace State

variable {α β γ : Type}

/-- Nothing came out but the failure, at this place. -/
structure FailsAt (state : State α) (failure : Failure) (position : Nat) : Prop where
  error : state.error = some failure
  position : state.position = position
  result : state.result = .empty

theorem FailsAt.failedFatally_eq {state : State α} {failure : Failure} {position : Nat}
    (fails : state.FailsAt failure position) : state.failedFatally = failure.isFatal := by
  rw [State.failedFatally, fails.error]
  rfl

/-- The given characters are consumed, and the failure stands where others remain. -/
structure Stops (before : State α) (failure : Failure) (written rest : List Char)
    (after : State β) : Prop where
  remains : before.rest = written ++ rest
  after_eq : after = (before.consume written.length (.empty : Output β)).withError failure

namespace Stops

variable {before : State α} {after : State β} {failure : Failure} {written rest : List Char}

theorem error (stops : before.Stops failure written rest after) : after.error = some failure := by
  rw [stops.after_eq]
  rfl

theorem failed (stops : before.Stops failure written rest after) : after.failed = true := by
  rw [stops.after_eq]
  rfl

theorem result (stops : before.Stops failure written rest after) : after.result = .empty := by
  rw [stops.after_eq]
  rfl

theorem position (stops : before.Stops failure written rest after) :
    after.position = before.position + Text.byteLength written := by
  have remains := stops.remains
  simp only [State.rest] at remains
  simp [stops.after_eq, State.position, State.consume, remains]

theorem failsAt (stops : before.Stops failure written rest after) {position : Nat}
    (place : before.position + Text.byteLength written = position) :
    after.FailsAt failure position :=
  ⟨stops.error, stops.position.trans place, stops.result⟩

theorem here (remains : before.rest = rest) :
    before.Stops failure [] rest (before.withError failure : State β) :=
  ⟨remains, by simp [State.consume, State.withError]⟩

theorem cleared (stops : before.Stops failure written rest after) :
    before.Stops failure written rest (after.cleared : State γ) := by
  refine ⟨stops.remains, ?_⟩
  rw [stops.after_eq]
  rfl

theorem of_cleared (stops : (before.cleared : State γ).Stops failure written rest after) :
    before.Stops failure written rest after := ⟨stops.remains, stops.after_eq⟩

theorem withError (stops : before.Stops failure written rest after) (other : Failure) :
    before.Stops other written rest (after.withError other : State γ) := by
  refine ⟨stops.remains, ?_⟩
  rw [stops.after_eq]
  rfl

end Stops

theorem Reads.trans_stops {before : State α} {middle : State β} {after : State γ}
    {failure : Failure} {written written' rest rest' : List Char} {output : Output β}
    (reads : before.Reads written rest' output middle)
    (stops : middle.Stops failure written' rest after) :
    before.Stops failure (written ++ written') rest after := by
  have remains : rest' = written' ++ rest := reads.rest_eq.symm.trans stops.remains
  refine ⟨by simp [reads.remains, remains], ?_⟩
  rw [stops.after_eq, reads.after_eq, List.length_append]
  simp [State.consume, State.withError, Text.Cursor.advance_advance]

end State

namespace Parser

variable {R : Type → Type} {enter : Enter R} {scope : Address}

/-- A literal that does not stand at a place is refused there, and so is any where nothing remains. -/
theorem literal_missing {expected : String} {state : State String} (running : state.failed = false)
    (missing : state.rest = [] ∨ ¬expected.toList <+: state.rest) :
    state.Stops (.ofLiteral expected state.rest state.position) [] state.rest
      (traceWith enter scope (.literal expected) state).value := by
  have refused : (traceWith enter scope (.literal expected) state).value =
      state.withError (.ofLiteral expected state.rest state.position) := by
    simp only [traceWith, value_application, value_unlessFailed, running, matchLiteral,
      Traced.value_bind, Failure.ofLiteral]
    cases remains : state.rest with
    | nil => rfl
    | cons head rest =>
      have absent : ¬expected.toList <+: head :: rest := by simpa [remains] using missing
      have absent : expected.toList.isPrefixOf (head :: rest) = false := by
        rwa [← Bool.not_eq_true, List.isPrefixOf_iff_prefix]
      simp [absent]
  exact refused ▸ .here rfl

theorem literal_stops {expected : String} {char : Char} (single : expected.toList = [char])
    {state : State String} (running : state.failed = false) (other : state.rest.head? ≠ some char) :
    state.Stops (.ofLiteral expected state.rest state.position) [] state.rest
      (traceWith enter scope (.literal expected) state).value := by
  refine literal_missing running (.inr fun stands => other ?_)
  rw [single] at stands
  exact List.singleton_prefix_iff_head?_eq_some.mp stands

section Between

variable {opening closing : String} {first last : Char} {state : State String}

theorem between_stops_at_once {right content : Parser R String} (opens : opening.toList = [first])
    (running : state.failed = false) (other : state.rest.head? ≠ some first) :
    state.Stops (.ofLiteral opening state.rest state.position) [] state.rest
      (traceWith enter scope (.between (.literal opening) right content) state).value := by
  have stops : (state.cleared : State String).Stops _ [] state.rest
      (traceWith enter scope (.literal opening) state.cleared).value :=
    literal_stops opens running other
  rw [traceWith, value_application, value_unlessFailed, if_neg (by simp [running]),
    Traced.value_bind, if_pos stops.failed]
  exact stops.of_cleared.cleared

/-- After the first delimiter all depends on what is read inside and on what follows it. -/
theorem between_enters (enter : Enter R) (scope : Address) (content : Parser R String)
    (opens : opening.toList = [first]) (closes : closing.toList = [last]) {rest : List Char}
    (running : state.failed = false) (remains : state.rest = first :: rest) :
    ∃ inner : State String, state.Reads [first] rest .empty inner ∧
      ((traceWith enter scope content inner).value.failed = true →
        (traceWith enter scope (.between (.literal opening) (.literal closing) content) state).value =
          (traceWith enter scope content inner).value.cleared) ∧
      ∀ {inside rest' : List Char} {output : Output String},
        inner.Reads inside rest' output (traceWith enter scope content inner).value →
        (∀ {after : List Char}, rest' = last :: after →
          state.Reads (first :: (inside ++ [last])) after output
            (traceWith enter scope (.between (.literal opening) (.literal closing) content)
              state).value) ∧
        (rest'.head? ≠ some last →
          state.Stops
            (.ofLiteral closing rest' (state.position + Text.byteLength (first :: inside)))
            (first :: inside) rest'
            (traceWith enter scope (.between (.literal opening) (.literal closing) content)
              state).value) := by
  have matches_first : Matches first (traceWith enter scope (.literal opening)) :=
    literal_matches first opens
  have matches_last : Matches last (traceWith enter scope (.literal closing)) :=
    literal_matches last closes
  -- The first delimiter is there, so that the content stands after it and starts without a result.
  obtain ⟨_, opened⟩ := matches_first.reads state.cleared running remains
  have success := opened.failed.trans running
  rw [traceWith, value_application, value_unlessFailed, if_neg (by simp [running]),
    Traced.value_bind, if_neg (by simp [success]), Traced.value_bind]
  generalize (traceWith enter scope (.literal opening) state.cleared).value = afterLeft at *
  refine ⟨afterLeft.cleared, opened.of_cleared.withResult, fun failed => ?_, ?_⟩
  · rw [if_pos failed]
    rfl
  · intro inside rest' output filled
    generalize (traceWith enter scope content afterLeft.cleared).value = afterContent at *
    have success := filled.failed.trans success
    have both := opened.of_cleared.trans filled
    rw [if_neg (by simp [success]), Traced.value_bind]
    constructor
    · rintro after rfl
      obtain ⟨_, closed⟩ := matches_last.reads afterContent.cleared success filled.rest_eq
      rw [if_neg (by simp [closed.failed.trans success]), filled.result]
      simpa using (both.trans closed).withResult
    · intro other
      have stops : (afterContent.cleared : State String).Stops
          (.ofLiteral closing afterContent.rest afterContent.position) [] afterContent.rest
          (traceWith enter scope (.literal closing) afterContent.cleared).value :=
        literal_stops closes success (filled.rest_eq.symm ▸ other)
      rw [filled.rest_eq, both.position] at stops
      rw [if_pos stops.failed]
      simpa using (both.trans_stops stops.of_cleared).cleared

end Between

end Parser

end Descent
