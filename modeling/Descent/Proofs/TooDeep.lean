import Descent.Proofs.Nested

set_option autoImplicit false

/-!
Where nested lists become too deep.

`Unclosed` describes the beginnings of texts that open too many lists. The parser fails fatally on a
text if and only if it begins so: what it has read before such a failure is of this form, by
induction on the rules that may still be entered, and wherever this form stands it leads to the
failure, by induction on the form.
-/

namespace Descent

namespace State

variable {α β γ δ : Type}

/-- The given characters are consumed, and there nesting is too deep for the limit. -/
structure Overflows (before : State α) (limit : Nat) (written rest : List Char) (after : State β) :
    Prop where
  remains : before.rest = written ++ rest
  after_eq : after = (before.consume written.length (.empty : Output β)).withError
    (.nestingTooDeep limit (before.position + Text.byteLength written))

namespace Overflows

variable {before : State α} {middle : State β} {after : State γ} {limit : Nat}
  {written written' rest rest' : List Char} {output : Output β}

theorem failedFatally (overflows : before.Overflows limit written rest after) :
    after.failedFatally = true := by
  rw [overflows.after_eq]
  rfl

theorem position (overflows : before.Overflows limit written rest after) :
    after.position = before.position + Text.byteLength written := by
  have remains := overflows.remains
  simp only [State.rest] at remains
  simp [overflows.after_eq, State.position, State.consume, remains]

theorem kept (overflows : before.Overflows limit written rest after) : ¬after.Rejected := by
  intro rejected
  have calm := rejected.2
  rw [overflows.failedFatally] at calm
  contradiction

theorem of_cleared (overflows : (before.cleared : State δ).Overflows limit written rest after) :
    before.Overflows limit written rest after := ⟨overflows.remains, overflows.after_eq⟩

theorem cleared (overflows : before.Overflows limit written rest after) :
    before.Overflows limit written rest (after.cleared : State δ) := by
  refine ⟨overflows.remains, ?_⟩
  rw [overflows.after_eq]
  rfl

theorem prepend (overflows : before.Overflows limit written rest after) (item : Output γ) :
    before.Overflows limit written rest (after.prepend item) := by
  rwa [State.prepend_of_failed item (State.failed_of_failedFatally overflows.failedFatally)]

theorem of_deeper {depth : Nat} {after : State α}
    (overflows : ((before.cleared : State α).atDepth depth).Overflows limit written rest after) :
    before.Overflows limit written rest (after.atDepth before.depth) := by
  refine ⟨overflows.remains, ?_⟩
  rw [overflows.after_eq]
  rfl

/-- Nesting is too deep at once. -/
theorem here (remains : before.rest = rest) :
    before.Overflows limit [] rest
      (before.withError (.nestingTooDeep limit before.position) : State β) :=
  ⟨remains, by simp [State.consume, State.withError]⟩

end Overflows

theorem failedFatally_prepend (item : Output α) (state : State α) :
    (state.prepend item).failedFatally = state.failedFatally := by
  unfold State.prepend
  split
  · rfl
  · split <;> rfl

theorem Reads.trans_overflows {before : State α} {middle : State β} {after : State γ} {limit : Nat}
    {written written' rest rest' : List Char} {output : Output β}
    (reads : before.Reads written rest' output middle)
    (overflows : middle.Overflows limit written' rest after) :
    before.Overflows limit (written ++ written') rest after := by
  have remains : rest' = written' ++ rest := reads.rest_eq.symm.trans overflows.remains
  refine ⟨by simp [reads.remains, remains], ?_⟩
  rw [overflows.after_eq, reads.position, Text.byteLength_append, List.length_append,
    Nat.add_assoc, reads.after_eq]
  simp [State.consume, State.withError, Text.Cursor.advance_advance]

end State

namespace Brackets

/-- Pieces of a text with a comma after each. -/
def withCommas (pieces : List (Output String × List Char)) : List Char :=
  pieces.flatMap fun piece => piece.2 ++ [',']

@[simp] theorem withCommas_nil : withCommas [] = [] := rfl

@[simp] theorem withCommas_cons (piece : Output String × List Char)
    (pieces : List (Output String × List Char)) :
    withCommas (piece :: pieces) = piece.2 ++ ',' :: withCommas pieces := by
  simp [withCommas]

/-- The beginning of a text that opens a list and so many more, each inside the one before, and
closes none of them. Complete items may stand before the next list, each with a comma after it and
with no more lists inside each other than are still to be opened. -/
inductive Unclosed : Nat → List Char → Prop where
  | innermost : Unclosed 0 ['[']
  | inside {levels : Nat} {pieces : List (Output String × List Char)} {written : List Char} :
      (∀ piece ∈ pieces, Renders piece.1 piece.2 ∧ piece.1.listDepth ≤ levels) →
      Unclosed levels written →
      Unclosed (levels + 1) ('[' :: (withCommas pieces ++ written))

/-- The brackets of a text are balanced in number. -/
abbrev Balanced (text : List Char) : Prop := text.count '[' = text.count ']'

theorem Row.balanced {words : List (List Char)} {row : List Char} (rowed : Row words row)
    (balanced : ∀ word ∈ words, Balanced word) : Balanced row := by
  induction rowed with
  | none => rfl
  | last word => exact balanced word (by simp)
  | more word _ ih =>
    have first : Balanced word := balanced word (by simp)
    have others := ih fun word member => balanced word (by simp [member])
    simp [Balanced, List.count_append, first, others]

theorem Renders.balanced {output : Output String} {written : List Char}
    (renders : Renders output written) : Balanced written := by
  induction renders with
  | @word word kind _ accepted =>
    have none (bracket : Char) (refused : kind.accepts bracket = false) : word.count bracket = 0 := by
      refine List.count_eq_zero.mpr fun member => ?_
      rw [accepted bracket member] at refused
      contradiction
    rw [Balanced, none '[' (by cases kind <;> rfl), none ']' (by cases kind <;> rfl)]
  | @list pieces trailing _ allowed ih =>
    have rowed : Row (pieces.map Prod.snd) ([','].intercalate (pieces.map Prod.snd) ++ trailing) :=
      row_iff.mpr ⟨trailing, by simpa using allowed, rfl⟩
    generalize [','].intercalate (pieces.map Prod.snd) ++ trailing = row at rowed ⊢
    have inside : Balanced row := by
      refine rowed.balanced fun word member => ?_
      obtain ⟨piece, listed, rfl⟩ := List.mem_map.mp member
      exact ih piece listed
    simp [Balanced, List.count_append, inside]

theorem commas_balanced {pieces : List (Output String × List Char)}
    (renders : ∀ piece ∈ pieces, Renders piece.1 piece.2) :
    Balanced (withCommas pieces) := by
  induction pieces with
  | nil => rfl
  | cons piece pieces ih =>
    have first : Balanced piece.2 := (renders piece (by simp)).balanced
    have others := ih fun piece member => renders piece (by simp [member])
    simp [Balanced, List.count_append, first, others]

/-- One list more than the number of levels is left open. -/
theorem Unclosed.count_eq {levels : Nat} {written : List Char} (unclosed : Unclosed levels written) :
    written.count '[' = written.count ']' + (levels + 1) := by
  induction unclosed with
  | innermost => rfl
  | @inside levels pieces written complete _ ih =>
    have before : Balanced (withCommas pieces) :=
      commas_balanced fun piece member => (complete piece member).1
    simp [List.count_append, before, ih]
    omega

end Brackets

namespace Parser

open State (Rejected)
open Brackets (withCommas)

section Rows

variable {separator value : State String → Traced (State String)} {depth bound : Nat}

/-- Values and commas are read up to a value at which nesting is too deep. -/
theorem separateFrom_overflows {pieces : List (Output String × List Char)} {limit : Nat}
    {written rest : List Char} (comma : Matches ',' separator)
    (reads : ∀ piece ∈ pieces, ∀ {state : State String} {rest : List Char}, state.failed = false →
      state.depth = depth → state.rest = piece.2 ++ ',' :: rest →
      state.Reads piece.2 (',' :: rest) piece.1 (value state).value)
    (overflows : ∀ {state : State String}, state.failed = false → state.depth = depth →
      state.rest = written ++ rest → state.Overflows limit written rest (value state).value)
    (state : State String) (running : state.failed = false) (same : state.depth = depth)
    (remains : state.rest = withCommas pieces ++ (written ++ rest))
    (bounded : Text.byteLength state.rest < bound) :
    state.Overflows limit (withCommas pieces ++ written) rest
      (separateFrom separator value bound state).value := by
  induction pieces generalizing bound state with
  | nil =>
    obtain ⟨bound, rfl⟩ := Nat.exists_eq_add_one.mpr (Nat.zero_lt_of_lt bounded)
    have last := overflows running same (by simpa using remains)
    rw [separateFrom_of_fatal last.failedFatally]
    simpa using last.cleared
  | cons piece pieces ih =>
    obtain ⟨bound, rfl⟩ := Nat.exists_eq_add_one.mpr (Nat.zero_lt_of_lt bounded)
    have item := reads piece (by simp) running same (by simpa using remains)
    obtain ⟨following, both, goesOn⟩ := separateFrom_of_piece comma running item
    rw [goesOn]
    have shorter := Nat.lt_of_lt_of_le (both.shortens (by simp)) (Nat.le_of_lt_succ bounded)
    have others := ih (fun piece member => reads piece (by simp [member])) following
      (both.failed.trans running) (both.depth.trans same) (by simpa using both.rest_eq) shorter
    simpa using (both.trans_overflows others).prepend piece.1

/-- What a loop over values and commas has read, if it fails fatally. -/
theorem separateFrom_fatal {Reading : Output String → List Char → Prop}
    (comma : Matches ',' separator)
    (sound : ∀ state : State String, state.failed = false → state.depth = depth →
      (value state).value.failed = false →
      ∃ output written rest, Reading output written ∧
        state.Reads written rest output (value state).value)
    (state : State String) (running : state.failed = false) (same : state.depth = depth)
    (fatal : (separateFrom separator value bound state).value.failedFatally = true) :
    ∃ (pieces : List (Output String × List Char)) (last : State String),
      (∀ piece ∈ pieces, Reading piece.1 piece.2) ∧
        state.rest = withCommas pieces ++ last.rest ∧
        last.failed = false ∧ last.depth = depth ∧ (value last).value.failedFatally = true := by
  induction bound generalizing state with
  | zero =>
    exact absurd running (State.not_running_of_failedFatally fatal)
  | succ bound ih =>
    rcases (value state).value.outcome_cases with success | rejected | stopped
    · obtain ⟨output, written, rest, reading, reads⟩ := sound state running same success
      rcases comma.cases (value state).value.cleared success with ⟨rest', _, separated⟩ | rejected
      · have item : state.Reads written (',' :: rest') output (value state).value := by
          have next : rest = ',' :: rest' := reads.rest_eq.symm.trans separated.remains
          exact next ▸ reads
        obtain ⟨following, both, goesOn⟩ := separateFrom_of_piece comma running item
        rw [goesOn, State.failedFatally_prepend] at fatal
        obtain ⟨pieces, last, readings, remains, others⟩ :=
          ih following (both.failed.trans running) (both.depth.trans same) fatal
        refine ⟨(output, written) :: pieces, last, List.forall_mem_cons.mpr ⟨reading, readings⟩,
          ?_, others⟩
        simp [both.remains, ← remains, both.rest_eq]
      · rw [separateFrom_of_last success rejected] at fatal
        exact absurd success (State.not_running_of_failedFatally fatal)
    · rw [separateFrom_of_rejected rejected] at fatal
      exact absurd running (State.not_running_of_failedFatally fatal)
    · exact ⟨[], state, by simp, by simp, running, same, stopped⟩

end Rows

/-- A single character is read or refused, and nothing worse. -/
theorem Matches.not_fatal {char : Char} {step : State String → Traced (State String)}
    (matcher : Matches char step) (state : State String) (running : state.failed = false) :
    ¬(step state).value.failedFatally = true := by
  rcases matcher.cases state running with ⟨_, _, reads⟩ | rejected
  · exact fun fatal => State.not_running_of_failedFatally fatal (reads.failed.trans running)
  · simp [rejected.2]

/-- If the whole fails fatally, then its first part does, or what follows the first part. -/
theorem bind_cleared_fatal {α β : Type} {first : Traced (State α)}
    {next : State α → Traced (State β)}
    (fatal : (do
      let after ← first
      if after.failed then return after.cleared else next after).value.failedFatally = true) :
    first.value.failedFatally = true ∨
      first.value.failed = false ∧ (next first.value).value.failedFatally = true := by
  rw [Traced.value_bind] at fatal
  cases failed : first.value.failed with
  | true =>
    rw [if_pos failed] at fatal
    exact .inl fatal
  | false =>
    rw [if_neg (by simp [failed])] at fatal
    exact .inr ⟨rfl, fatal⟩

section Between

variable {R : Type → Type} {enter : Enter R} {scope : Address}
  {left right content : Parser R String} {first last : Char} {state : State String}

theorem between_overflows {limit : Nat} {written rest : List Char}
    (opening : Matches first (traceWith enter scope left)) (running : state.failed = false)
    (overflows : ∀ inner : State String, inner.failed = false → inner.depth = state.depth →
      inner.rest = written ++ rest →
      inner.Overflows limit written rest (traceWith enter scope content inner).value)
    (remains : state.rest = first :: (written ++ rest)) :
    state.Overflows limit (first :: written) rest
      (traceWith enter scope (.between left right content) state).value := by
  simp only [traceWith, value_application, value_unlessFailed, running, Traced.value_bind]
  obtain ⟨_, opened⟩ := opening.reads state.cleared running remains
  have success := opened.failed.trans running
  have inside := overflows (State.cleared _) success opened.depth opened.rest_eq
  rw [if_neg (by simp), if_neg (by simp [success])]
  simp only [Traced.value_bind]
  rw [if_pos (State.failed_of_failedFatally inside.failedFatally)]
  simpa using (opened.of_cleared.trans_overflows (.of_cleared inside)).cleared

/-- If a bracketed part fails fatally, then between the brackets. -/
theorem between_fatal (opening : Matches first (traceWith enter scope left))
    (closing : Matches last (traceWith enter scope right)) (running : state.failed = false)
    (fatal : (traceWith enter scope (.between left right content) state).value.failedFatally = true) :
    ∃ inner : State String, state.rest = first :: inner.rest ∧ inner.failed = false ∧
      inner.depth = state.depth ∧
        (traceWith enter scope content inner).value.failedFatally = true := by
  simp only [traceWith, value_application, value_unlessFailed, running, Bool.false_eq_true,
    if_false] at fatal
  rcases bind_cleared_fatal fatal with stopped | ⟨opens, fatal⟩
  · exact absurd stopped (opening.not_fatal state.cleared running)
  · rcases opening.cases state.cleared running with ⟨_, _, opened⟩ | rejected
    · rcases bind_cleared_fatal fatal with stopped | ⟨fills, fatal⟩
      · have remains := opened.remains.trans (congrArg _ opened.rest_eq.symm)
        exact ⟨State.cleared _, remains, opens, opened.depth, stopped⟩
      · rcases bind_cleared_fatal fatal with stopped | ⟨closes, fatal⟩
        · exact absurd stopped (closing.not_fatal (State.cleared _) fills)
        · exact absurd closes (State.not_running_of_failedFatally fatal)
    · exact absurd opens rejected.not_running

end Between

end Parser

namespace Brackets

open Descent.Parser (separateFrom stepBound)

variable {limit : UInt64} {levels cell : Nat} {scope : Address} {state : State String}

/-- A value fails fatally only at the end of a beginning that opens too many lists. -/
def FatalSound (limit : UInt64) (levels : Nat) : Prop :=
  ∀ (scope : Address) (state : State String), state.failed = false →
    limit.toNat < levels + state.depth → state.depth ≤ limit.toNat →
    (after limit levels scope (value limit) state).failedFatally = true →
    ∃ written rest, Unclosed (limit.toNat - state.depth) written ∧ state.rest = written ++ rest

theorem Unclosed.deeper {depth : Nat} {pieces : List (Output String × List Char)}
    {written : List Char} (admitted : depth < limit.toNat)
    (fits : ∀ piece ∈ pieces, Fits limit (depth + 1) piece.1 piece.2)
    (unclosed : Unclosed (limit.toNat - (depth + 1)) written) :
    Unclosed (limit.toNat - depth)
      ('[' :: (withCommas pieces ++ written)) := by
  have more : limit.toNat - depth = limit.toNat - (depth + 1) + 1 := by omega
  rw [more]
  refine .inside (fun piece member => ?_) unclosed
  obtain ⟨renders, shallow⟩ := fits piece member
  exact ⟨renders, by omega⟩

theorem item_fatal (sound : FatalSound limit levels) (running : state.failed = false)
    (enough : limit.toNat < levels + 1 + state.depth) (admitted : state.depth < limit.toNat)
    (fatal : (after limit (levels + 1) scope (item limit cell) state).failedFatally = true) :
    ∃ written rest, Unclosed (limit.toNat - (state.depth + 1)) written ∧
      state.rest = written ++ rest := by
  rw [after_item_of_admitted running admitted] at fatal
  have deeper : limit.toNat < levels + (state.depth + 1) := by omega
  exact sound (cell :: scope) (state.cleared.atDepth (state.depth + 1)) running deeper admitted fatal

theorem list_fatal (sound : FatalSound limit levels) (running : state.failed = false)
    (enough : limit.toNat < levels + 1 + state.depth) (allowed : state.depth ≤ limit.toNat)
    (fatal : (after limit (levels + 1) scope (list limit cell) state).failedFatally = true) :
    ∃ written rest, Unclosed (limit.toNat - state.depth) written ∧ state.rest = written ++ rest := by
  obtain ⟨inner, opened, running, same, fatal⟩ := Parser.between_fatal
    (Parser.literal_matches '[' rfl) (Parser.literal_matches ']' rfl) running fatal
  change (after limit (levels + 1) scope (items limit cell) inner).failedFatally = true at fatal
  rw [after_items running] at fatal
  have item (before : State String) (running : before.failed = false)
      (same : before.depth = state.depth)
      (succeeds : (after limit (levels + 1) scope (item limit cell) before).failed = false) :=
    same ▸ item_sound (value_sound limit levels) running (by omega) succeeds
  obtain ⟨pieces, last, fits, remains, running, deep, fatal⟩ := Parser.separateFrom_fatal
    (Parser.literal_matches ',' rfl) item inner.cleared running same fatal
  have remains : inner.rest = withCommas pieces ++ last.rest := remains
  by_cases admitted : state.depth < limit.toNat
  · obtain ⟨written, rest, unclosed, continues⟩ :=
      item_fatal sound running (by omega) (by omega) fatal
    refine ⟨_, rest, .deeper admitted fits (deep ▸ unclosed), ?_⟩
    simp [opened, remains, continues]
  · -- No item fits any more, so that the list fails at once.
    have none : pieces = [] := by
      refine List.eq_nil_iff_forall_not_mem.mpr fun piece member => ?_
      have shallow := (fits piece member).2
      omega
    subst none
    have full : limit.toNat - state.depth = 0 := by omega
    exact ⟨['['], last.rest, full ▸ .innermost, opened.trans (congrArg _ remains)⟩

theorem fatalSound (limit : UInt64) (levels : Nat) : FatalSound limit levels := by
  induction levels with
  | zero =>
    intro scope state _ enough allowed
    omega
  | succ levels ih =>
    intro scope state running enough allowed fatal
    by_cases rejected : (after limit (levels + 1) scope (list limit 0) state).Rejected
    · rw [after_value_of_rejected running rejected] at fatal
      rcases Parser.choose_word_cases running with ⟨_, _, _, _, _, reads⟩ | rejected
      · exact absurd (reads.failed.trans running) (State.not_running_of_failedFatally fatal)
      · exact absurd (rejected.2.symm.trans fatal) (by simp)
    · rw [after_value_of_kept running rejected] at fatal
      exact list_fatal ih running enough allowed fatal

theorem items_overflow (pieces : List (Output String × List Char)) {written rest : List Char}
    (reads : ∀ piece ∈ pieces, ValueReads limit piece.1 piece.2 ∧
      piece.1.listDepth + (state.depth + 1) ≤ limit.toNat)
    (overflows : ∀ last : State String, last.failed = false → last.depth = state.depth →
      last.rest = written ++ rest →
      last.Overflows limit.toNat written rest
        (after limit (levels + 1) scope (item limit cell) last))
    (running : state.failed = false) (enough : limit.toNat < levels + 1 + state.depth)
    (remains : state.rest = withCommas pieces ++ (written ++ rest)) :
    state.Overflows limit.toNat (withCommas pieces ++ written) rest
      (after limit (levels + 1) scope (items limit cell) state) := by
  rw [after_items running]
  refine (Parser.separateFrom_overflows (Parser.literal_matches ',' rfl) ?_
    (fun {last} => overflows last) state.cleared running rfl remains
    (Parser.byteLength_rest_lt_stepBound state)).of_cleared
  intro piece member before rest running same remains
  obtain ⟨reads, shallow⟩ := reads piece member
  refine item_reads reads running (by omega) (by omega) remains ?_
  intro kind
  cases kind <;> rfl

/-- Too many lists that are opened make the parser fail fatally at the last of them. -/
theorem Unclosed.overflows {left : Nat} {written : List Char} (unclosed : Unclosed left written) :
    ∀ (levels : Nat) (scope : Address) (cell : Nat) (state : State String) {rest : List Char},
      state.failed = false → limit.toNat < levels + 1 + state.depth →
      left + state.depth = limit.toNat → state.rest = written ++ rest →
      state.Overflows limit.toNat written rest
        (after limit (levels + 1) scope (list limit cell) state) := by
  induction unclosed with
  | innermost =>
    intro levels scope cell state rest running enough deep remains
    refine Parser.between_overflows (Parser.literal_matches '[' rfl) running ?_ remains
    intro inner running same remains
    refine items_overflow [] (by simp) ?_ running (by omega) remains
    intro last running same remains
    rw [after_item_of_refused running (by omega)]
    exact .here remains
  | @inside left pieces written complete unclosed ih =>
    intro levels scope cell state rest running enough deep remains
    obtain ⟨levels, rfl⟩ : ∃ more, levels = more + 1 := Nat.exists_eq_add_one.mpr (by omega)
    refine Parser.between_overflows (Parser.literal_matches '[' rfl) running ?_ (by simpa using remains)
    intro inner running same remains
    refine items_overflow pieces ?_ ?_ running (by omega) (by simpa using remains)
    · intro piece member
      obtain ⟨renders, shallow⟩ := complete piece member
      exact ⟨renders.valueReads, by omega⟩
    · intro last running same remains
      rw [after_item_of_admitted running (by omega)]
      have enough : limit.toNat < levels + 1 + (last.depth + 1) := by omega
      have deep : left + (last.depth + 1) = limit.toNat := by omega
      have running : (last.cleared.atDepth (last.depth + 1)).failed = false := running
      have deeper := ih levels (cell :: scope) 0 _ running enough deep remains
      rw [← after_value_of_kept running deeper.kept] at deeper
      exact deeper.of_deeper

/-- Nested lists with a limit of their own, parsed from the start of a text. -/
abbrev parseWithin (limit : UInt64) (text : String) : State String :=
  (nestedWithin limit 0 Rule.value).parse (grammarWithin limit) text

theorem nested_parse_eq : Kind.nested.parse = parseWithin 256 := rfl

/-- The parser fails fatally if and only if the text begins with too many open lists. It stops at
the last of them, whatever follows. -/
theorem parseWithin_too_deep_iff (limit : UInt64) (text : String) :
    ((parseWithin limit text).failedFatally = true ↔
        ∃ written rest, text.toList = written ++ rest ∧ Unclosed limit.toNat written) ∧
      ∀ written rest : List Char, text.toList = written ++ rest → Unclosed limit.toNat written →
        written.count '[' = written.count ']' + (limit.toNat + 1) ∧
          (parseWithin limit text).error =
            some (.nestingTooDeep limit.toNat (Text.byteLength written)) ∧
          (parseWithin limit text).position = Text.byteLength written ∧
          (parseWithin limit text).result = .empty ∧
          (parseWithin limit text).depth = 0 := by
  obtain ⟨levels, all⟩ : ∃ levels, Parser.allLevels = levels + 1 := ⟨UInt64.size - 1, rfl⟩
  have parsed : parseWithin limit text =
      after limit (levels + 1) [] (list limit 0) (.start text) := all ▸ rfl
  have depth : (State.start text : State String).depth = 0 := rfl
  have enough : limit.toNat < levels + 1 + (State.start text : State String).depth := by
    rw [depth, Nat.add_zero, ← all]
    exact limit.toNat_lt
  have start : (State.start text : State String).rest = text.toList := Text.dropBytes_zero _
  have overflows {written rest : List Char} (remains : text.toList = written ++ rest)
      (unclosed : Unclosed limit.toNat written) :
      (State.start text : State String).Overflows limit.toNat written rest
        (after limit (levels + 1) [] (list limit 0) (.start text)) :=
    unclosed.overflows levels [] 0 _ rfl enough rfl (start.trans remains)
  rw [parsed]
  refine ⟨⟨fun fatal => ?_, ?_⟩, ?_⟩
  · obtain ⟨written, rest, unclosed, remains⟩ :=
      list_fatal (fatalSound limit levels) rfl enough (Nat.zero_le _) fatal
    exact ⟨written, rest, start.symm.trans remains, unclosed⟩
  · rintro ⟨written, rest, remains, unclosed⟩
    exact (overflows remains unclosed).failedFatally
  · intro written rest remains unclosed
    have fatal := overflows remains unclosed
    have position : (State.start text : State String).position = 0 := rfl
    refine ⟨unclosed.count_eq, ?_, ?_, ?_, ?_⟩
    · rw [fatal.after_eq, position, Nat.zero_add]
      rfl
    · rw [fatal.position, position, Nat.zero_add]
    · rw [fatal.after_eq]
      rfl
    · rw [fatal.after_eq]
      rfl

/-- Three lists inside each other are one too many for a limit of two, once the third is opened. -/
theorem parseWithin_two_too_deep :
    (parseWithin 2 "[[1],[x,[y").error = some (.nestingTooDeep 2 9) ∧
      (parseWithin 2 "[[1],[x,[y").position = 9 := by
  have one : Renders (.value (.ofList ['1'])) ['1'] :=
    .word .digits (by simp) (List.forall_mem_singleton.mpr rfl)
  have word : Renders (.value (.ofList ['x'])) ['x'] :=
    .word .letters (by simp) (List.forall_mem_singleton.mpr rfl)
  have closed : Renders (.list [.value (.ofList ['1'])]) "[1]".toList :=
    @Renders.list [(_, ['1'])] [] (by simpa using one) (.inl rfl)
  have last : Unclosed 1 "[x,[".toList :=
    @Unclosed.inside 0 [(_, ['x'])] _ (by simpa using ⟨word, by decide⟩) .innermost
  have written : Unclosed 2 "[[1],[x,[".toList :=
    @Unclosed.inside 1 [(_, "[1]".toList)] _ (by simpa using ⟨closed, by decide⟩) last
  obtain ⟨_, error, position, _⟩ :=
    (parseWithin_too_deep_iff 2 "[[1],[x,[y").2 "[[1],[x,[".toList ['y'] rfl written
  exact ⟨error, position⟩

end Brackets

end Descent
