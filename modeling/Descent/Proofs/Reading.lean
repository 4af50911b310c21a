import Descent.Proofs.Rendering
import Descent.Proofs.Standard

set_option autoImplicit false

/-!
What parsers read.

`State.Reads` says that some characters that stand at a place are consumed, with an output. For a
parser there are two questions: what it has read if it succeeds, and when it reads what stands
there. Both are answered here for single characters, for runs, for values with commas between them
and for brackets around them, whatever is done on entering a rule.
-/

namespace Descent

namespace State

variable {α β γ : Type}

/-- The given characters are consumed, and others remain. -/
structure Reads (before : State α) (written rest : List Char) (output : Output β)
    (after : State β) : Prop where
  remains : before.rest = written ++ rest
  after_eq : after = before.consume written.length output

/-- A failure that another alternative may follow. -/
def Rejected (state : State α) : Prop := state.failed = true ∧ state.failedFatally = false

theorem Rejected.not_running {state : State α} (rejected : state.Rejected) :
    ¬state.failed = false := by
  simp [rejected.1]

theorem not_running_of_failedFatally {state : State α} (fatal : state.failedFatally = true) :
    ¬state.failed = false := by
  simp [failed_of_failedFatally fatal]

namespace Reads

variable {before : State α} {middle : State β} {after : State γ} {written written' rest : List Char}
  {output : Output β} {output' : Output γ}

theorem failed (reads : before.Reads written rest output middle) :
    middle.failed = before.failed := by
  rw [reads.after_eq]
  rfl

theorem kept (reads : before.Reads written rest output middle) (running : before.failed = false) :
    ¬middle.Rejected := by
  intro rejected
  exact rejected.not_running (reads.failed.trans running)

theorem depth (reads : before.Reads written rest output middle) :
    middle.depth = before.depth := by
  rw [reads.after_eq]
  rfl

theorem result (reads : before.Reads written rest output middle) : middle.result = output := by
  rw [reads.after_eq]
  rfl

theorem rest_eq (reads : before.Reads written rest output middle) : middle.rest = rest := by
  have remains := reads.remains
  simp only [State.rest] at remains ⊢
  simp [reads.after_eq, State.consume, remains]

theorem position (reads : before.Reads written rest output middle) :
    middle.position = before.position + Text.byteLength written := by
  have remains := reads.remains
  simp only [State.rest] at remains
  simp [reads.after_eq, State.position, State.consume, remains]

theorem moves (reads : before.Reads written rest output middle) (nonempty : written ≠ []) :
    middle.position ≠ before.position := by
  have positive := Text.byteLength_pos nonempty
  rw [reads.position]
  omega

theorem shortens (reads : before.Reads written rest output middle) (nonempty : written ≠ []) :
    Text.byteLength middle.rest < Text.byteLength before.rest := by
  have positive := Text.byteLength_pos nonempty
  rw [reads.remains, reads.rest_eq, Text.byteLength_append]
  omega

theorem trans {rest' : List Char} (first : before.Reads written rest' output middle)
    (second : (middle.cleared : State γ).Reads written' rest output' after) :
    before.Reads (written ++ written') rest output' after := by
  have remains : rest' = written' ++ rest := first.rest_eq.symm.trans second.remains
  refine ⟨by simp [first.remains, remains], ?_⟩
  rw [second.after_eq, first.after_eq, List.length_append]
  simp [State.consume, State.cleared, State.withResult, Text.Cursor.advance_advance]

theorem withResult (reads : before.Reads written rest output middle) :
    before.Reads written rest output' (middle.withResult output') := by
  refine ⟨reads.remains, ?_⟩
  rw [reads.after_eq]
  rfl

theorem of_cleared (reads : (before.cleared : State γ).Reads written rest output middle) :
    before.Reads written rest output middle := ⟨reads.remains, reads.after_eq⟩

theorem to_cleared (reads : before.Reads written rest output middle) :
    (before.cleared : State γ).Reads written rest output middle := ⟨reads.remains, reads.after_eq⟩

theorem nothing (remains : before.rest = rest) :
    before.Reads [] rest output (before.withResult output) :=
  ⟨remains, by simp [State.consume, State.withResult]⟩

theorem prepend {items : List (Output β)}
    (reads : before.Reads written rest (.list items) middle) (running : before.failed = false)
    (item : Output β) : before.Reads written rest (.list (item :: items)) (middle.prepend item) := by
  have running : middle.failed = false := reads.failed.trans running
  rw [State.prepend, if_neg (by simp [running]), reads.result]
  exact reads.withResult

end Reads

theorem failed_prepend (item : Output α) (state : State α) :
    (state.prepend item).failed = state.failed := by
  unfold State.prepend
  split
  · rfl
  · split <;> rfl

theorem position_prepend (item : Output α) (state : State α) :
    (state.prepend item).position = state.position := by
  unfold State.prepend
  split
  · rfl
  · split <;> rfl

/-- A part succeeds, fails, or fails fatally. -/
theorem outcome_cases (state : State α) :
    state.failed = false ∨ state.Rejected ∨ state.failedFatally = true := by
  cases failed : state.failed with
  | false => exact .inl rfl
  | true =>
    cases fatal : state.failedFatally with
    | false => exact .inr (.inl ⟨failed, fatal⟩)
    | true => exact .inr (.inr rfl)

theorem Rejected.cleared {state : State α} (rejected : state.Rejected) :
    (state.cleared : State β).Rejected := rejected

theorem withError_rejected (state : State α) {failure : Failure} (mild : failure.isFatal = false) :
    (state.withError failure : State β).Rejected := ⟨rfl, mild⟩

end State

namespace Parser

open State (Rejected)

variable {R : Type → Type} {α : Type} {enter : Enter R} {scope : Address}

/-- A step that reads one character and refuses any other. -/
structure Matches (char : Char) (step : State String → Traced (State String)) : Prop where
  reads : ∀ (state : State String) {rest : List Char}, state.failed = false →
    state.rest = char :: rest → ∃ output, state.Reads [char] rest output (step state).value
  rejects : ∀ {state : State String}, state.failed = false → state.rest.head? ≠ some char →
    (step state).value.Rejected

theorem Matches.cases {char : Char} {step : State String → Traced (State String)}
    (matcher : Matches char step) (state : State String) (running : state.failed = false) :
    (∃ rest output, state.Reads [char] rest output (step state).value) ∨
      (step state).value.Rejected := by
  by_cases starts : state.rest.head? = some char
  · obtain ⟨rest, remains⟩ := List.head?_eq_some_iff.mp starts
    exact .inl ⟨rest, matcher.reads state running remains⟩
  · exact .inr (matcher.rejects running starts)

/-- A literal is read where it stands, unless nothing remains at all. -/
theorem literal_reads {expected : String} {state : State String} {rest : List Char}
    (running : state.failed = false) (remains : state.rest = expected.toList ++ rest)
    (more : state.rest ≠ []) :
    state.Reads expected.toList rest (.value expected)
      (traceWith enter scope (.literal expected) state).value := by
  refine ⟨remains, ?_⟩
  have stands : expected.toList.isPrefixOf state.rest = true := by simp [remains]
  simp [traceWith, value_unlessFailed, running, matchLiteral, more, stands]

theorem literal_matches {expected : String} (char : Char) (single : expected.toList = [char]) :
    Matches char (traceWith enter scope (.literal expected)) := by
  constructor
  · intro state rest running remains
    have reads : state.Reads expected.toList rest (.value expected)
        (traceWith enter scope (.literal expected) state).value :=
      literal_reads running (by simp [remains, single]) (by simp [remains])
    exact ⟨_, single ▸ reads⟩
  · intro state running other
    simp only [traceWith, value_application, value_unlessFailed, running, matchLiteral,
      Traced.value_bind, single]
    cases remains : state.rest with
    | nil => exact State.withError_rejected _ rfl
    | cons head rest =>
      have differ : (char == head) = false := by
        rw [remains] at other
        simpa using fun same : char = head => other (by simp [same])
      simp only [List.isPrefixOf, differ]
      exact State.withError_rejected _ rfl

theorem takeWhile_of_stops {kind : CharRun} {rest : List Char}
    (stops : rest.head?.any kind.accepts = false) : rest.takeWhile kind.accepts = [] := by
  cases rest with
  | nil => rfl
  | cons char rest =>
    have refused : kind.accepts char = false := by simpa using stops
    simp [refused]

theorem stops_dropWhile (accepts : Char → Bool) (text : List Char) :
    (text.dropWhile accepts).head?.any accepts = false := by
  have first := List.head?_dropWhile_not accepts text
  cases next : (text.dropWhile accepts).head? with
  | none => rfl
  | some char => simpa [next] using first

theorem run_reads {kind : CharRun} {word rest : List Char} {state : State String}
    (running : state.failed = false) (remains : state.rest = word ++ rest) (nonempty : word ≠ [])
    (accepted : ∀ char ∈ word, kind.accepts char = true)
    (stops : rest.head?.any kind.accepts = false) :
    state.Reads word rest (.value (String.ofList word))
      (traceWith enter scope (.run kind) state).value := by
  refine ⟨remains, ?_⟩
  have length : kind.matchLength? (word ++ rest) = some word.length := by
    have run : (word ++ rest).takeWhile kind.accepts = word := by
      rw [List.takeWhile_append_of_pos accepted, takeWhile_of_stops stops, List.append_nil]
    simp [CharRun.matchLength?, run, nonempty]
  simp [traceWith, value_unlessFailed, running, matchPattern, remains, length, nonempty]

theorem run_rejects {kind : CharRun} {state : State String} (running : state.failed = false)
    (other : state.rest.head?.any kind.accepts = false) :
    (traceWith enter scope (.run kind) state).value.Rejected := by
  have none : kind.matchLength? state.rest = none := by
    simp [CharRun.matchLength?, takeWhile_of_stops other]
  simp only [traceWith, value_application, value_unlessFailed, running, matchPattern,
    Traced.value_bind, none]
  split
  · contradiction
  · split <;> exact State.withError_rejected _ rfl

theorem run_cases (enter : Enter R) (scope : Address) (kind : CharRun) {state : State String}
    (running : state.failed = false) :
    (∃ word rest, word ≠ [] ∧ (∀ char ∈ word, kind.accepts char = true) ∧
      state.Reads word rest (.value (String.ofList word))
        (traceWith enter scope (.run kind) state).value) ∨
      (traceWith enter scope (.run kind) state).value.Rejected := by
  by_cases run : state.rest.takeWhile kind.accepts = []
  · refine .inr (run_rejects running ?_)
    cases remains : state.rest with
    | nil => rfl
    | cons char rest => simpa [remains, List.takeWhile_cons] using run
  · have accepted : ∀ char ∈ state.rest.takeWhile kind.accepts, kind.accepts char = true :=
      List.all_eq_true.mp List.all_takeWhile
    exact .inl ⟨_, _, run, accepted, run_reads running List.takeWhile_append_dropWhile.symm run
      accepted (stops_dropWhile kind.accepts state.rest)⟩

theorem choose_takes {parser : Parser R α} {rest : Parsers R α} {state : State α}
    (kept : ¬(traceWith enter scope parser state).value.Rejected) :
    (chooseWith enter scope (.cons parser rest) state).value =
      (traceWith enter scope parser state).value := by
  have taken : (!(traceWith enter scope parser state).value.failed ||
      (traceWith enter scope parser state).value.failedFatally) = true := by
    revert kept
    unfold State.Rejected
    cases (traceWith enter scope parser state).value.failed <;> simp
  simp only [chooseWith, Traced.value_bind]
  rw [if_pos taken]
  rfl

theorem choose_skips {parser : Parser R α} {rest : Parsers R α} {state : State α}
    (rejected : (traceWith enter scope parser state).value.Rejected) :
    (chooseWith enter scope (.cons parser rest) state).value =
      (chooseWith enter scope rest state).value := by
  simp [chooseWith, rejected.1, rejected.2]

/-- One of the runs is read, if one stands at the start. -/
theorem choose_word_cases {state : State String} (running : state.failed = false) :
    (∃ kind word rest, word ≠ [] ∧ (∀ char ∈ word, CharRun.accepts kind char = true) ∧
      state.Reads word rest (.value (String.ofList word))
        (chooseWith enter scope (.ofList [letters, digits]) state).value) ∨
      (chooseWith enter scope (.ofList [letters, digits]) state).value.Rejected := by
  rcases run_cases enter scope .letters running with
    ⟨word, rest, nonempty, accepted, reads⟩ | rejected
  · refine .inl ⟨_, word, rest, nonempty, accepted, ?_⟩
    rwa [Parsers.ofList, letters, choose_takes (reads.kept running)]
  · rw [Parsers.ofList, letters, choose_skips rejected]
    rcases run_cases enter scope .digits running with
      ⟨word, rest, nonempty, accepted, reads⟩ | rejected
    · refine .inl ⟨_, word, rest, nonempty, accepted, ?_⟩
      rwa [Parsers.ofList, digits, choose_takes (reads.kept running)]
    · rw [Parsers.ofList, digits, choose_skips rejected]
      exact .inr (State.withError_rejected _ rfl)

theorem isAlpha_of_isDigit {char : Char} (digit : char.isDigit = true) : char.isAlpha = false := by
  have high : char.val.toNat ≤ 57 := (Char.isDigit_iff_toNat.mp digit).2
  change (decide ('A'.val ≤ char.val ∧ char.val ≤ 'Z'.val) ||
    (decide ('a'.val ≤ char.val) && decide (char.val ≤ 'z'.val))) = false
  simp only [UInt32.le_iff_toNat_le, Bool.or_eq_false_iff, Bool.and_eq_false_iff,
    decide_eq_false_iff_not]
  have upper : 'A'.val.toNat = 65 := rfl
  have lower : 'a'.val.toNat = 97 := rfl
  omega

/-- A run that stands at the start is read, whichever it is. -/
theorem choose_word_reads {state : State String} {kind : CharRun} {word rest : List Char}
    (running : state.failed = false) (remains : state.rest = word ++ rest) (nonempty : word ≠ [])
    (accepted : ∀ char ∈ word, kind.accepts char = true)
    (stops : rest.head?.any kind.accepts = false) :
    state.Reads word rest (.value (String.ofList word))
      (chooseWith enter scope (.ofList [letters, digits]) state).value := by
  have reads : state.Reads word rest _ (traceWith enter scope (.run kind) state).value :=
    run_reads running remains nonempty accepted stops
  cases kind with
  | letters => rwa [Parsers.ofList, letters, choose_takes (reads.kept running)]
  | digits =>
    have rejected : (traceWith enter scope (.run .letters) state).value.Rejected := by
      refine run_rejects running ?_
      rw [remains]
      cases word with
      | nil => contradiction
      | cons char word => exact isAlpha_of_isDigit (accepted char (by simp))
    rwa [Parsers.ofList, letters, choose_skips rejected, Parsers.ofList, digits,
      choose_takes (reads.kept running)]

theorem choose_word_rejects {state : State String} (running : state.failed = false)
    (other : ∀ kind : CharRun, state.rest.head?.any kind.accepts = false) :
    (chooseWith enter scope (.ofList [letters, digits]) state).value.Rejected := by
  rw [Parsers.ofList, letters, choose_skips (run_rejects running (other _)), Parsers.ofList, digits,
    choose_skips (run_rejects running (other _))]
  exact State.withError_rejected _ rfl

section Rounds

variable {σ : Type} {separator : State σ → Traced (State σ)} {value : State α → Traced (State α)}
  {bound : Nat} {state : State α}

theorem separateFrom_of_fatal (fatal : (value state).value.failedFatally = true) :
    (separateFrom separator value (bound + 1) state).value = (value state).value.cleared := by
  simp only [separateFrom, Traced.value_bind]
  rw [if_pos fatal]
  rfl

theorem separateFrom_of_rejected (rejected : (value state).value.Rejected) :
    (separateFrom separator value (bound + 1) state).value = state.withResult (.list []) := by
  simp only [separateFrom, Traced.value_bind]
  rw [if_neg (by simp [rejected.2]), if_pos rejected.1]
  rfl

theorem separateFrom_of_last (success : (value state).value.failed = false)
    (rejected : (separator (value state).value.cleared).value.Rejected) :
    (separateFrom separator value (bound + 1) state).value =
      (value state).value.withResult (.list [(value state).value.result]) := by
  simp only [separateFrom, Traced.value_bind]
  rw [if_neg (by simp [State.failedFatally_of_running success]), if_neg (by simp [success])]
  simp only [Traced.value_bind]
  rw [if_neg (by simp [rejected.2]), if_pos rejected.1]
  rfl

theorem separateFrom_of_round (success : (value state).value.failed = false)
    (separated : (separator (value state).value.cleared).value.failed = false) :
    (separateFrom separator value (bound + 1) state).value =
      if (separator (value state).value.cleared).value.position = state.position then
        (separator (value state).value.cleared).value.withResult
          (.list [(value state).value.result])
      else
        (separateFrom separator value bound
          (separator (value state).value.cleared).value.cleared).value.prepend
            (value state).value.result := by
  simp only [separateFrom, Traced.value_bind]
  rw [if_neg (by simp [State.failedFatally_of_running success]), if_neg (by simp [success])]
  simp only [Traced.value_bind]
  rw [if_neg (by simp [State.failedFatally_of_running separated]), if_neg (by simp [separated])]
  split <;> rfl

variable {step : State α → Traced (State α)}

theorem repeatFrom_of_rejected (rejected : (step state).value.Rejected) :
    (repeatFrom step (bound + 1) state).value = state.withResult (.list []) := by
  simp only [repeatFrom, Traced.value_bind]
  rw [if_neg (by simp [rejected.2]), if_pos rejected.1]
  rfl

theorem repeatFrom_of_progress (success : (step state).value.failed = false)
    (moved : (step state).value.position ≠ state.position) :
    (repeatFrom step (bound + 1) state).value =
      (repeatFrom step bound (step state).value.cleared).value.prepend (step state).value.result := by
  simp only [repeatFrom, Traced.value_bind]
  rw [if_neg (by simp [State.failedFatally_of_running success]), if_neg (by simp [success]),
    if_neg moved]
  rfl

end Rounds

section Rows

variable {separator value : State String → Traced (State String)} {depth : Nat}

/-- A value and the comma after it are read, and the loop goes on after them. -/
theorem separateFrom_of_piece (comma : Matches ',' separator) {state : State String}
    {output : Output String} {written rest : List Char} {bound : Nat} (running : state.failed = false)
    (item : state.Reads written (',' :: rest) output (value state).value) :
    ∃ following : State String, state.Reads (written ++ [',']) rest .empty following ∧
      (separateFrom separator value (bound + 1) state).value =
        (separateFrom separator value bound following).value.prepend output := by
  have success := item.failed.trans running
  obtain ⟨_, separated⟩ := comma.reads (value state).value.cleared success item.rest_eq
  have both := item.trans separated
  refine ⟨_, both.withResult, ?_⟩
  rw [separateFrom_of_round success (separated.failed.trans success), if_neg (both.moves (by simp)),
    item.result]
  rfl

/-- What a loop over values and commas has read, if it succeeds. -/
theorem separateFrom_sound {Reading : Output String → List Char → Prop}
    (comma : Matches ',' separator)
    (sound : ∀ state : State String, state.failed = false → state.depth = depth →
      (value state).value.failed = false →
      ∃ output written rest, Reading output written ∧
        state.Reads written rest output (value state).value)
    (bound : Nat) (state : State String) (running : state.failed = false)
    (same : state.depth = depth)
    (succeeds : (separateFrom separator value bound state).value.failed = false) :
    ∃ (pieces : List (Output String × List Char)) (row rest : List Char),
      (∀ piece ∈ pieces, Reading piece.1 piece.2) ∧ Brackets.Row (pieces.map Prod.snd) row ∧
        state.Reads row rest (.list (pieces.map Prod.fst))
          (separateFrom separator value bound state).value := by
  induction bound generalizing state with
  | zero => exact ⟨[], [], _, by simp, .none, .nothing rfl⟩
  | succ bound ih =>
    rcases (value state).value.outcome_cases with success | rejected | fatal
    · obtain ⟨output, written, rest, reading, reads⟩ := sound state running same success
      rcases comma.cases (value state).value.cleared success with ⟨rest', _, reads'⟩ | rejected
      · have separated := reads'.failed.trans success
        have both := reads.trans reads'
        rw [separateFrom_of_round success separated] at succeeds ⊢
        rw [reads.result]
        split
        · refine ⟨[(output, written)], _, rest', by simpa using reading, .more written .none, ?_⟩
          exact both.withResult
        next moved =>
          rw [if_neg moved, State.failed_prepend] at succeeds
          obtain ⟨pieces, row, rest, readings, rowed, others⟩ :=
            ih (State.cleared _) separated (both.depth.trans same) succeeds
          refine ⟨(output, written) :: pieces, _, rest,
            List.forall_mem_cons.mpr ⟨reading, readings⟩, .more written rowed, ?_⟩
          simpa using (both.trans others).prepend running output
      · rw [separateFrom_of_last success rejected, reads.result]
        exact ⟨[(output, written)], written, rest, by simpa using reading, .last written,
          reads.withResult⟩
    · rw [separateFrom_of_rejected rejected]
      exact ⟨[], [], _, by simp, .none, .nothing rfl⟩
    · rw [separateFrom_of_fatal fatal] at succeeds
      exact absurd succeeds (State.not_running_of_failedFatally fatal)

/-- Values and commas are read up to a closing bracket. -/
theorem separateFrom_reads {pieces : List (Output String × List Char)}
    (comma : Matches ',' separator)
    (reads : ∀ piece ∈ pieces, ∀ {state : State String} {rest : List Char}, state.failed = false →
      state.depth = depth → state.rest = piece.2 ++ rest →
      (∀ kind : CharRun, rest.head?.any kind.accepts = false) →
      state.Reads piece.2 rest piece.1 (value state).value)
    (rejects : ∀ {state : State String}, state.failed = false → state.depth = depth →
      state.rest.head? = some ']' → (value state).value.Rejected)
    {row rest : List Char} (rowed : Brackets.Row (pieces.map Prod.snd) row) {bound : Nat}
    (state : State String) (running : state.failed = false) (same : state.depth = depth)
    (remains : state.rest = row ++ ']' :: rest) (bounded : Text.byteLength state.rest < bound) :
    state.Reads row (']' :: rest) (.list (pieces.map Prod.fst))
      (separateFrom separator value bound state).value := by
  induction bound generalizing pieces row state with
  | zero => omega
  | succ bound ih =>
    generalize words_eq : pieces.map Prod.snd = words at rowed
    cases rowed with
    | none =>
      have none : pieces = [] := List.map_eq_nil_iff.mp words_eq
      subst none
      rw [separateFrom_of_rejected (rejects running same (by simp [remains]))]
      exact .nothing remains
    | last word =>
      obtain ⟨piece, rfl, rfl⟩ := List.map_eq_singleton_iff.mp words_eq
      have item := reads piece (by simp) running same remains (fun kind => by cases kind <;> rfl)
      have success := item.failed.trans running
      have rejected : (separator (value state).value.cleared).value.Rejected := by
        refine comma.rejects success ?_
        change (value state).value.rest.head? ≠ _
        simp [item.rest_eq]
      rw [separateFrom_of_last success rejected, item.result]
      exact item.withResult
    | more word rowed =>
      obtain ⟨piece, pieces, rfl, rfl, rfl⟩ := List.map_eq_cons_iff.mp words_eq
      have item := reads piece (by simp) running same (by simpa using remains)
        (fun kind => by cases kind <;> rfl)
      obtain ⟨following, both, goesOn⟩ := separateFrom_of_piece comma running item
      have shorter := Nat.lt_of_lt_of_le (both.shortens (by simp)) (Nat.le_of_lt_succ bounded)
      have others := ih (fun piece member => reads piece (by simp [member])) rowed following
        (both.failed.trans running) (both.depth.trans same) both.rest_eq shorter
      rw [goesOn]
      simpa using (both.trans others.to_cleared).prepend running piece.1

end Rows

theorem value_sepBy {σ : Type} {separator : Parser R σ} {value : Parser R α} {state : State α}
    (running : state.failed = false) :
    (traceWith enter scope (.sepBy separator value) state).value =
      (separateFrom (traceWith enter scope separator) (traceWith enter scope value)
        (stepBound state) state.cleared).value := by
  simp [traceWith, value_unlessFailed, running]

/-- If the whole succeeds, then its first part does, and what follows is done. -/
theorem bind_cleared_succeeds {α β : Type} {first : Traced (State α)}
    {next : State α → Traced (State β)}
    (succeeds : (do
      let after ← first
      if after.failed then return after.cleared else next after).value.failed = false) :
    first.value.failed = false ∧
      (do let after ← first; if after.failed then return after.cleared else next after).value =
        (next first.value).value := by
  rw [Traced.value_bind] at succeeds ⊢
  cases failed : first.value.failed with
  | true =>
    rw [if_pos failed] at succeeds
    exact absurd (failed.symm.trans succeeds) (by simp)
  | false => exact ⟨rfl, by rw [if_neg (by simp)]⟩

section Between

variable {left right content : Parser R String} {first last : Char} {state : State String}

theorem between_reads {inside rest : List Char} {output : Output String}
    (opening : Matches first (traceWith enter scope left))
    (closing : Matches last (traceWith enter scope right)) (running : state.failed = false)
    (reads : ∀ inner : State String, inner.failed = false → inner.depth = state.depth →
      inner.rest = inside ++ last :: rest →
      inner.Reads inside (last :: rest) output (traceWith enter scope content inner).value)
    (remains : state.rest = first :: (inside ++ last :: rest)) :
    state.Reads (first :: (inside ++ [last])) rest output
      (traceWith enter scope (.between left right content) state).value := by
  simp only [traceWith, value_application, value_unlessFailed, running, Traced.value_bind]
  obtain ⟨_, opened⟩ := opening.reads state.cleared running remains
  generalize (traceWith enter scope left state.cleared).value = afterLeft at *
  have success := opened.failed.trans running
  have filled := reads afterLeft.cleared success opened.depth opened.rest_eq
  rw [if_neg (by simp), if_neg (by simp [success])]
  simp only [Traced.value_bind]
  generalize (traceWith enter scope content afterLeft.cleared).value = afterContent at *
  have success := filled.failed.trans success
  obtain ⟨_, closed⟩ := closing.reads afterContent.cleared success filled.rest_eq
  rw [if_neg (by simp [success])]
  simp only [Traced.value_bind]
  generalize (traceWith enter scope right afterContent.cleared).value = afterRight at *
  have success := closed.failed.trans success
  rw [if_neg (by simp [success]), filled.result]
  have whole := (opened.of_cleared.trans filled).trans closed
  simpa using whole.withResult

theorem between_sound {Reading : Output String → List Char → Prop}
    (opening : Matches first (traceWith enter scope left))
    (closing : Matches last (traceWith enter scope right)) (running : state.failed = false)
    (sound : ∀ inner : State String, inner.failed = false → inner.depth = state.depth →
      (traceWith enter scope content inner).value.failed = false →
      ∃ output inside rest, Reading output inside ∧
        inner.Reads inside rest output (traceWith enter scope content inner).value)
    (succeeds : (traceWith enter scope (.between left right content) state).value.failed = false) :
    ∃ output inside rest, Reading output inside ∧
      state.Reads (first :: (inside ++ [last])) rest output
        (traceWith enter scope (.between left right content) state).value := by
  simp only [traceWith, value_application, value_unlessFailed, running, Bool.false_eq_true,
    if_false] at succeeds ⊢
  obtain ⟨opens, same⟩ := bind_cleared_succeeds succeeds
  rw [same] at succeeds ⊢
  obtain ⟨fills, same⟩ := bind_cleared_succeeds succeeds
  rw [same] at succeeds ⊢
  obtain ⟨closes, same⟩ := bind_cleared_succeeds succeeds
  rw [same]
  rcases opening.cases state.cleared running with ⟨_, _, opened⟩ | rejected
  · obtain ⟨output, inside, _, reading, filled⟩ := sound (State.cleared _) opens opened.depth fills
    rcases closing.cases (State.cleared _) fills with ⟨rest, _, closed⟩ | rejected
    · refine ⟨output, inside, rest, reading, ?_⟩
      have whole := (opened.of_cleared.trans filled).trans closed
      rw [filled.result]
      simpa using whole.withResult
    · exact absurd closes rejected.not_running
  · exact absurd opens rejected.not_running

theorem between_rejects (opening : Matches first (traceWith enter scope left))
    (running : state.failed = false) (other : state.rest.head? ≠ some first) :
    (traceWith enter scope (.between left right content) state).value.Rejected := by
  simp only [traceWith, value_application, value_unlessFailed, running, Traced.value_bind]
  have rejected : (traceWith enter scope left state.cleared).value.Rejected :=
    opening.rejects running other
  rw [if_neg (by simp), if_pos rejected.1]
  exact rejected.cleared

end Between

section Lazy

variable {grammar : Grammar R} {levels cell : Nat} {limit : UInt64} {rule : R α} {state : State α}

theorem value_lazy (running : state.failed = false) :
    (traceWith (enterBody grammar levels) scope (.lazy cell limit rule) state).value =
      if limit.toNat ≤ state.depth then
        state.withError (.nestingTooDeep limit.toNat state.position)
      else
        (traceLevels grammar levels (cell :: scope) (grammar α rule)
          (state.cleared.atDepth (state.depth + 1))).value.atDepth state.depth := by
  simp only [traceWith, value_application, value_unlessFailed, running]
  split
  · contradiction
  · split <;> rfl

end Lazy

end Parser

end Descent
