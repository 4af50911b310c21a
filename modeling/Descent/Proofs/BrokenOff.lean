import Descent.Proofs.Consistency
import Descent.Proofs.Delimiters
import Descent.Proofs.TooDeep

set_option autoImplicit false

/-!
Where nested lists break off.

If nesting is never too deep, then a list fails at its own first bracket, or at its last one, which
is missing after the items. Failures inside an item are given up with the item. What is read before the
missing bracket is the longest row of items that stands there, because the loop gets at least as far
as any such row (`separateFrom_reaches`, by induction on the row).
-/

namespace Descent

namespace Parser

section Rows

open Brackets (Row)

variable {separator value : State String → Traced (State String)} {depth bound : Nat}

/-- A loop does not go back before a value that it has read. -/
theorem position_le_separateFrom
    (separates : ∀ state : State String, state.Advances (separator state).value)
    (values : ∀ state : State String, state.Advances (value state).value) {state : State String}
    (success : (value state).value.failed = false) :
    (value state).value.position ≤
      (separateFrom separator value (bound + 1) state).value.position := by
  have next := separates (value state).value.cleared
  simp only [separateFrom, Traced.value_bind]
  rw [if_neg (by simp [State.failedFatally_of_running success]), if_neg (by simp [success])]
  simp only [Traced.value_bind]
  split
  · exact next.position_le
  · split
    · exact Nat.le_refl _
    · split
      · exact next.position_le
      · have others := separateFrom_advances separates values bound
          (separator (value state).value.cleared).value.cleared
        exact Nat.le_trans next.position_le (others.prepend _).position_le

/-- A loop gets at least as far as any row of values that stands at its start. -/
theorem separateFrom_reaches {words : List (List Char)} {row rest : List Char}
    (comma : Matches ',' separator)
    (separates : ∀ state : State String, state.Advances (separator state).value)
    (values : ∀ state : State String, state.Advances (value state).value)
    (reads : ∀ word ∈ words, ∀ {state : State String} {rest : List Char}, state.failed = false →
      state.depth = depth → state.rest = word ++ ',' :: rest →
      ∃ output, state.Reads word (',' :: rest) output (value state).value)
    (reaches : ∀ word ∈ words, ∀ {state : State String} {rest : List Char}, state.failed = false →
      state.depth = depth → state.rest = word ++ rest →
      (value state).value.failed = false ∧
        state.position + Text.byteLength word ≤ (value state).value.position)
    (rowed : Row words row) (state : State String) (running : state.failed = false)
    (same : state.depth = depth) (remains : state.rest = row ++ rest)
    (bounded : Text.byteLength state.rest < bound) :
    state.position + Text.byteLength row ≤
      (separateFrom separator value bound state).value.position := by
  induction rowed generalizing bound state with
  | none => exact (separateFrom_advances separates values bound state).position_le
  | last word =>
    obtain ⟨bound, rfl⟩ := Nat.exists_eq_add_one.mpr (Nat.zero_lt_of_lt bounded)
    obtain ⟨success, far⟩ := reaches word (by simp) running same remains
    exact Nat.le_trans far (position_le_separateFrom separates values success)
  | @more word words row rowed ih =>
    obtain ⟨bound, rfl⟩ := Nat.exists_eq_add_one.mpr (Nat.zero_lt_of_lt bounded)
    obtain ⟨output, item⟩ := reads word (by simp) running same (by simpa using remains)
    obtain ⟨following, both, goesOn⟩ := separateFrom_of_piece comma running item
    have shorter := Nat.lt_of_lt_of_le (both.shortens (by simp)) (Nat.le_of_lt_succ bounded)
    have others := ih (fun word member => reads word (by simp [member]))
      (fun word member => reaches word (by simp [member])) following
      (both.failed.trans running) (both.depth.trans same) both.rest_eq shorter
    rw [goesOn, State.position_prepend]
    rw [both.position, Text.byteLength_append] at others
    simp only [Text.byteLength_append, Text.byteLength_cons, Text.byteLength_nil] at others ⊢
    omega

end Rows

end Parser

namespace Brackets

open Descent.Parser (traceLevels traceWith enterBody)

variable {limit : UInt64} {levels cell : Nat} {scope : Address} {state : State String}

/-- Complete values with a comma after each, with so many lists inside each other at most. The last
one may lack its comma. -/
def ValueRow (depth : Nat) (row : List Char) : Prop :=
  ∃ words : List (List Char), Row words row ∧
    ∀ word ∈ words, ∃ output, Renders output word ∧ output.listDepth ≤ depth

theorem Fits.row {depth : Nat} {items : List (Output String)} {inside : List Char}
    (fits : Fits limit depth (.list items) ('[' :: (inside ++ [']']))) :
    ValueRow (limit.toNat - (depth + 1)) inside := by
  obtain ⟨renders, shallow⟩ := fits
  generalize whole : '[' :: (inside ++ [']']) = written at renders
  cases renders with
  | @list pieces trailing each allowed =>
    obtain rfl : inside = [','].intercalate (pieces.map Prod.snd) ++ trailing :=
      List.append_cancel_right (List.cons.inj whole).2
    refine ⟨pieces.map Prod.snd, row_iff.mpr ⟨trailing, by simpa using allowed, rfl⟩, ?_⟩
    intro word member
    obtain ⟨piece, listed, rfl⟩ := List.mem_map.mp member
    refine ⟨piece.1, each piece listed, ?_⟩
    have inner := Output.listDepthOfItems_le.mp (Nat.le_refl _) piece.1 (List.mem_map_of_mem listed)
    simp only [Output.listDepth] at shallow
    omega

/-- Where a value stands, at least so much is read: a word may go on after it. -/
theorem Renders.value_reaches {output : Output String} {written rest : List Char}
    (renders : Renders output written) (running : state.failed = false)
    (enough : limit.toNat < levels + state.depth)
    (shallow : output.listDepth + state.depth ≤ limit.toNat)
    (remains : state.rest = written ++ rest) :
    (after limit levels scope (value limit) state).failed = false ∧
      state.position + Text.byteLength written ≤
        (after limit levels scope (value limit) state).position := by
  obtain ⟨levels, rfl⟩ : ∃ more, levels = more + 1 := Nat.exists_eq_add_one.mpr (by omega)
  cases renders with
  | word kind nonempty accepted =>
    -- The whole run is read, of which the word is only the beginning.
    have split : state.rest =
        written ++ rest.takeWhile kind.accepts ++ rest.dropWhile kind.accepts := by
      rw [List.append_assoc, List.takeWhile_append_dropWhile, remains]
    have longer : ∀ char ∈ written ++ rest.takeWhile kind.accepts, kind.accepts char = true :=
      List.forall_mem_append.mpr ⟨accepted, List.all_eq_true.mp List.all_takeWhile⟩
    have reads : state.Reads _ _ _ (after limit (levels + 1) scope (value limit) state) :=
      word_value_reads running (by simp [nonempty]) longer (Parser.stops_dropWhile _ _) split
    refine ⟨reads.failed.trans running, ?_⟩
    rw [reads.position, Text.byteLength_append]
    omega
  | list renders allowed =>
    have reads := list_reads (fun piece member => (renders piece member).valueReads) allowed levels
      scope 0 running enough shallow remains
    rw [after_value_of_kept running (reads.kept running)]
    exact ⟨reads.failed.trans running, Nat.le_of_eq reads.position.symm⟩

theorem Renders.item_reaches {output : Output String} {written rest : List Char}
    (renders : Renders output written) (running : state.failed = false)
    (enough : limit.toNat < levels + 1 + state.depth)
    (shallow : output.listDepth + (state.depth + 1) ≤ limit.toNat)
    (remains : state.rest = written ++ rest) :
    (after limit (levels + 1) scope (item limit cell) state).failed = false ∧
      state.position + Text.byteLength written ≤
        (after limit (levels + 1) scope (item limit cell) state).position := by
  rw [after_item_of_admitted running (by omega)]
  have deeper : limit.toNat < levels + (state.depth + 1) := by omega
  have running : (state.cleared.atDepth (state.depth + 1)).failed = false := running
  exact renders.value_reaches running deeper shallow remains

/-- A list gets past every row of values that stands after its bracket. -/
theorem items_reach {row rest : List Char} (running : state.failed = false)
    (admitted : state.depth < limit.toNat) (enough : limit.toNat < levels + 1 + state.depth)
    (rowed : ValueRow (limit.toNat - (state.depth + 1)) row) (remains : state.rest = row ++ rest) :
    state.position + Text.byteLength row ≤
      (after limit (levels + 1) scope (items limit cell) state).position := by
  obtain ⟨words, rowed, values⟩ := rowed
  rw [after_items running]
  have rules := grammarWithin_standard limit
  have separates (before : State String) : before.Advances
      (traceWith (enterBody (grammarWithin limit) levels) scope (.literal ",") before).value :=
    Parser.traceLevels_advances rules (levels + 1) scope (.literal ",") before
  have items (before : State String) :
      before.Advances (after limit (levels + 1) scope (item limit cell) before) :=
    Parser.traceLevels_advances rules (levels + 1) scope (.named "value" (.lazy cell limit _)) before
  refine Parser.separateFrom_reaches (Parser.literal_matches ',' rfl) separates items ?_ ?_ rowed
    state.cleared running rfl remains (Parser.byteLength_rest_lt_stepBound state)
  · intro word member before rest running same remains
    have same : before.depth = state.depth := same
    obtain ⟨output, renders, shallow⟩ := values word member
    refine ⟨output, item_reads renders.valueReads running (by omega) (by omega) remains ?_⟩
    intro kind
    cases kind <;> rfl
  · intro word member before rest running same remains
    have same : before.depth = state.depth := same
    obtain ⟨output, renders, shallow⟩ := values word member
    exact renders.item_reaches running (by omega) (by omega) remains

/-- A row of values at the start of a text, such that none that is longer stands there. -/
structure LongestRow (depth : Nat) (text row rest : List Char) : Prop where
  remains : text = row ++ rest
  rowed : ValueRow depth row
  longest : ∀ {row' rest' : List Char}, text = row' ++ rest' → ValueRow depth row' →
    Text.byteLength row' ≤ Text.byteLength row

/-- Unless nesting is too deep, a longest row of values is read. -/
theorem items_outcome (running : state.failed = false) (admitted : state.depth < limit.toNat)
    (enough : limit.toNat < levels + 1 + state.depth)
    (calm : (after limit (levels + 1) scope (items limit cell) state).failedFatally = false) :
    ∃ output row rest, LongestRow (limit.toNat - (state.depth + 1)) state.rest row rest ∧
      state.Reads row rest output (after limit (levels + 1) scope (items limit cell) state) := by
  have success : (after limit (levels + 1) scope (items limit cell) state).failed = false := by
    rw [after_items running] at calm ⊢
    exact (Parser.separateFrom_gathered _ _ _ state.cleared running).running running calm
  obtain ⟨output, row, rest, ⟨_, rfl, fits⟩, reads⟩ :=
    items_sound (value_sound limit levels) running enough success
  refine ⟨_, row, rest, ⟨reads.remains, fits.row, fun remains rowed => ?_⟩, reads⟩
  have far : state.position + _ ≤
      (after limit (levels + 1) scope (items limit cell) state).position :=
    items_reach running admitted enough rowed remains
  rw [reads.position] at far
  omega

/-- If a list fails, then for the lack of a bracket, unless nesting is too deep. -/
theorem list_breaks_off (running : state.failed = false) (admitted : state.depth < limit.toNat)
    (enough : limit.toNat < levels + 1 + state.depth)
    (failed : (after limit (levels + 1) scope (list limit cell) state).failed = true)
    (calm : (after limit (levels + 1) scope (list limit cell) state).failedFatally = false) :
    (state.rest.head? ≠ some '[' ∧
        state.Stops (.ofLiteral "[" state.rest state.position) [] state.rest
          (after limit (levels + 1) scope (list limit cell) state)) ∨
      ∃ text row rest, state.rest = '[' :: text ∧
        LongestRow (limit.toNat - (state.depth + 1)) text row rest ∧ rest.head? ≠ some ']' ∧
          state.Stops (.ofLiteral "]" rest (state.position + Text.byteLength ('[' :: row)))
            ('[' :: row) rest (after limit (levels + 1) scope (list limit cell) state) := by
  have opens : "[".toList = ['['] := rfl
  have closes : "]".toList = [']'] := rfl
  by_cases opened : state.rest.head? = some '['
  · obtain ⟨text, remains⟩ := List.head?_eq_some_iff.mp opened
    obtain ⟨inner, opened, inside, decides⟩ := Parser.between_enters
      (enterBody (grammarWithin limit) levels) scope (items limit cell) opens closes running remains
    -- A failure that is fatal inside would be that of the whole.
    have calm : (after limit (levels + 1) scope (items limit cell) inner).failedFatally =
        false := by
      cases fatal : (after limit (levels + 1) scope (items limit cell) inner).failedFatally with
      | false => rfl
      | true =>
        have stopped : after limit (levels + 1) scope (list limit cell) state = _ :=
          inside (State.failed_of_failedFatally fatal)
        rw [stopped] at calm
        exact absurd (calm.symm.trans fatal) (by simp)
    have same := opened.depth
    obtain ⟨output, row, rest, longest, reads⟩ := items_outcome (opened.failed.trans running)
      (same ▸ admitted) (same ▸ enough) calm
    rw [same, opened.rest_eq] at longest
    obtain ⟨accepts, refuses⟩ := decides reads
    have other : rest.head? ≠ some ']' := by
      intro closed
      obtain ⟨after, remains⟩ := List.head?_eq_some_iff.mp closed
      have success := (accepts remains).failed.trans running
      exact absurd (failed.symm.trans success) (by simp)
    exact .inr ⟨text, row, rest, remains, longest, other, refuses other⟩
  · exact .inl ⟨opened, Parser.between_stops_at_once opens running opened⟩

/-- If the limit admits a list, then a parse fails for the lack of a bracket, unless nesting is too
deep. -/
theorem parseWithin_breaks_off (text : String) (admitted : 0 < limit.toNat)
    (failed : (parseWithin limit text).failed = true)
    (calm : (parseWithin limit text).failedFatally = false) :
    (text.toList.head? ≠ some '[' ∧
        (parseWithin limit text).FailsAt (.ofLiteral "[" text.toList 0) 0) ∨
      ∃ after row rest, text.toList = '[' :: after ∧ LongestRow (limit.toNat - 1) after row rest ∧
        rest.head? ≠ some ']' ∧
          (parseWithin limit text).FailsAt (.ofLiteral "]" rest (1 + Text.byteLength row))
            (1 + Text.byteLength row) := by
  obtain ⟨levels, enough, parsed⟩ :=
    Parser.parse_eq_traceLevels (grammarWithin limit) (list limit 0) text
  have parsed : parseWithin limit text =
      after limit (levels + 1) [] (list limit 0) (.start text) := parsed
  have start : (State.start text : State String).rest = text.toList := Parser.rest_start text
  rw [parsed] at failed calm ⊢
  rcases list_breaks_off rfl admitted (enough limit) failed calm with
    ⟨other, stops⟩ | ⟨after, row, rest, remains, longest, other, stops⟩
  · rw [start] at other stops
    exact .inl ⟨other, stops.failsAt rfl⟩
  · refine .inr ⟨after, row, rest, start.symm.trans remains, longest, other, ?_⟩
    have place : (State.start text : State String).position + Text.byteLength ('[' :: row) =
        1 + Text.byteLength row := Nat.zero_add _
    rw [place] at stops
    exact stops.failsAt place

/-- Where nested lists fail without being too deep, a bracket is missing: the first one, or one
after the longest row of values that follows the first. No other failure ever shows. -/
theorem nested_breaks_off (text : String) (failed : (Kind.nested.parse text).failed = true)
    (calm : (Kind.nested.parse text).failedFatally = false) :
    (text.toList.head? ≠ some '[' ∧
        (Kind.nested.parse text).FailsAt (.ofLiteral "[" text.toList 0) 0) ∨
      ∃ after row rest, text.toList = '[' :: after ∧ LongestRow 255 after row rest ∧
        rest.head? ≠ some ']' ∧
          (Kind.nested.parse text).FailsAt (.ofLiteral "]" rest (1 + Text.byteLength row))
            (1 + Text.byteLength row) := by
  rw [nested_parse_eq] at failed calm ⊢
  exact parseWithin_breaks_off text (by decide) failed calm

/-- A list inside another one is given up together with its failure. -/
theorem second_list_breaks_off :
    (Kind.nested.parse "[1,[2").failed = true ∧
      (Kind.nested.parse "[1,[2").failedFatally = false ∧ (Kind.nested.parse "[1,[2").position = 3 ∧
      ∃ after row rest, "[1,[2".toList = '[' :: after ∧ LongestRow 255 after row rest ∧
        rest.head? ≠ some ']' ∧
          (Kind.nested.parse "[1,[2").FailsAt (.ofLiteral "]" rest (1 + Text.byteLength row))
            (1 + Text.byteLength row) := by
  have failed : (Kind.nested.parse "[1,[2").failed = true := by decide +kernel
  have calm : (Kind.nested.parse "[1,[2").failedFatally = false := by decide +kernel
  refine ⟨failed, calm, by decide +kernel, ?_⟩
  rcases nested_breaks_off "[1,[2" failed calm with ⟨other, _⟩ | broken
  · exact absurd rfl other
  · exact broken

end Brackets

end Descent
