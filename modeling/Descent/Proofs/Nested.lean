import Descent.Proofs.Reading

set_option autoImplicit false

/-!
What the grammar of nested lists accepts.

A value or a list is only ever read from what is written for it (`value_sound`, by induction on the
rules that may still be entered), and whatever is written for it is read (`Renders.valueReads`, by
induction on the rendering). A list needs one more open rule than its items even if it has none,
for then too a value is tried.
-/

namespace Descent

namespace Output

theorem listDepthOfItems_le {α : Type} {items : List (Output α)} {bound : Nat} :
    listDepthOfItems items ≤ bound ↔ ∀ item ∈ items, item.listDepth ≤ bound := by
  induction items with
  | nil => simp [listDepthOfItems]
  | cons item items ih => rw [listDepthOfItems, Nat.max_le, ih, List.forall_mem_cons]

end Output

namespace Brackets

open Descent.Parser (traceLevels traceWith enterBody separateFrom chooseWith stepBound)

variable {limit : UInt64} {levels cell : Nat} {scope : Address} {state : State String}

/-- The state after a parser, with so many rules inside each other. -/
abbrev after (limit : UInt64) (levels : Nat) (scope : Address) (parser : Parser Rule String)
    (state : State String) : State String :=
  (traceLevels (grammarWithin limit) levels scope parser state).value

/-- A value, in any place of the grammar. -/
abbrev value (limit : UInt64) : Parser Rule String := valueWithin limit .value

/-- A list in square brackets. -/
abbrev list (limit : UInt64) (cell : Nat) : Parser Rule String := nestedWithin limit cell .value

/-- An item of a list. -/
abbrev item (limit : UInt64) (cell : Nat) : Parser Rule String :=
  .named "value" (.lazy cell limit .value)

/-- The items of a list with the commas between them. -/
abbrev items (limit : UInt64) (cell : Nat) : Parser Rule String :=
  .sepBy (.literal ",") (item limit cell)

theorem after_item_of_admitted (running : state.failed = false)
    (admitted : state.depth < limit.toNat) :
    after limit (levels + 1) scope (item limit cell) state =
      (after limit levels (cell :: scope) (value limit)
        (state.cleared.atDepth (state.depth + 1))).atDepth state.depth :=
  (Parser.value_lazy running).trans (if_neg (Nat.not_le.mpr admitted))

theorem after_item_of_refused (running : state.failed = false)
    (refused : limit.toNat ≤ state.depth) :
    after limit (levels + 1) scope (item limit cell) state =
      state.withError (.nestingTooDeep limit.toNat state.position) :=
  (Parser.value_lazy running).trans (if_pos refused)

theorem after_items (running : state.failed = false) :
    after limit (levels + 1) scope (items limit cell) state =
      (separateFrom (traceWith (enterBody (grammarWithin limit) levels) scope (.literal ","))
        (traceLevels (grammarWithin limit) (levels + 1) scope (item limit cell)) (stepBound state)
        state.cleared).value :=
  Parser.value_sepBy running

theorem after_value (running : state.failed = false) :
    after limit (levels + 1) scope (value limit) state =
      (chooseWith (enterBody (grammarWithin limit) levels) scope
        (.ofList [list limit 0, .letters, .digits]) state).value :=
  (Parser.value_unlessFailed state _).trans (if_neg (by simp [running]))

theorem after_value_of_kept (running : state.failed = false)
    (kept : ¬(after limit (levels + 1) scope (list limit 0) state).Rejected) :
    after limit (levels + 1) scope (value limit) state =
      after limit (levels + 1) scope (list limit 0) state :=
  (after_value running).trans (Parser.choose_takes kept)

theorem after_value_of_rejected (running : state.failed = false)
    (rejected : (after limit (levels + 1) scope (list limit 0) state).Rejected) :
    after limit (levels + 1) scope (value limit) state =
      (chooseWith (enterBody (grammarWithin limit) levels) scope (.ofList [.letters, .digits])
        state).value :=
  (after_value running).trans (Parser.choose_skips rejected)

theorem list_rejects (running : state.failed = false) (other : state.rest.head? ≠ some '[') :
    (after limit (levels + 1) scope (list limit cell) state).Rejected :=
  Parser.between_rejects (Parser.literal_matches '[' rfl) running other

/-- What is written for an output that stands in so many lists. -/
def Fits (limit : UInt64) (depth : Nat) (output : Output String) (written : List Char) : Prop :=
  Renders output written ∧ output.listDepth + depth ≤ limit.toNat

theorem Fits.list {depth : Nat} {pieces : List (Output String × List Char)} {row : List Char}
    (admitted : depth < limit.toNat)
    (fits : ∀ piece ∈ pieces, Fits limit (depth + 1) piece.1 piece.2)
    (rowed : Row (pieces.map Prod.snd) row) :
    Fits limit depth (.list (pieces.map Prod.fst)) ('[' :: (row ++ [']'])) := by
  obtain ⟨trailing, allowed, rfl⟩ := row_iff.mp rowed
  constructor
  · refine .list (fun piece member => (fits piece member).1) ?_
    simpa using allowed
  · have shallow : Output.listDepthOfItems (pieces.map Prod.fst) ≤ limit.toNat - (depth + 1) := by
      refine Output.listDepthOfItems_le.mpr fun output listed => ?_
      obtain ⟨piece, member, rfl⟩ := List.mem_map.mp listed
      have fit := (fits piece member).2
      omega
    simp only [Output.listDepth]
    omega

/-- A value is only ever read from what is written for it. -/
def ValueSound (limit : UInt64) (levels : Nat) : Prop :=
  ∀ (scope : Address) (state : State String), state.failed = false →
    limit.toNat < levels + state.depth → state.depth ≤ limit.toNat →
    (after limit levels scope (value limit) state).failed = false →
    ∃ output written rest, Fits limit state.depth output written ∧
      state.Reads written rest output (after limit levels scope (value limit) state)

theorem item_sound (sound : ValueSound limit levels) (running : state.failed = false)
    (enough : limit.toNat < levels + 1 + state.depth)
    (succeeds : (after limit (levels + 1) scope (item limit cell) state).failed = false) :
    ∃ output written rest, Fits limit (state.depth + 1) output written ∧
      state.Reads written rest output (after limit (levels + 1) scope (item limit cell) state) := by
  by_cases admitted : state.depth < limit.toNat
  · rw [after_item_of_admitted running admitted] at succeeds ⊢
    have deeper : limit.toNat < levels + (state.depth + 1) := by omega
    obtain ⟨output, written, rest, fits, reads⟩ :=
      sound (cell :: scope) (state.cleared.atDepth (state.depth + 1)) running deeper admitted succeeds
    refine ⟨output, written, rest, fits, reads.remains, ?_⟩
    rw [reads.after_eq]
    rfl
  · rw [after_item_of_refused running (Nat.not_lt.mp admitted)] at succeeds
    contradiction

theorem items_sound (sound : ValueSound limit levels) (running : state.failed = false)
    (enough : limit.toNat < levels + 1 + state.depth)
    (succeeds : (after limit (levels + 1) scope (items limit cell) state).failed = false) :
    ∃ output inside rest,
      (∃ items, output = .list items ∧ Fits limit state.depth output ('[' :: (inside ++ [']']))) ∧
        state.Reads inside rest output
          (after limit (levels + 1) scope (items limit cell) state) := by
  rw [after_items running] at succeeds ⊢
  by_cases admitted : state.depth < limit.toNat
  · have item (inner : State String) (running : inner.failed = false)
        (same : inner.depth = state.depth)
        (succeeds : (after limit (levels + 1) scope (item limit cell) inner).failed = false) :=
      same ▸ item_sound sound running (by omega) succeeds
    obtain ⟨pieces, row, rest, fits, rowed, reads⟩ := Parser.separateFrom_sound
      (Parser.literal_matches ',' rfl) item _ state.cleared running rfl succeeds
    exact ⟨_, row, rest, ⟨_, rfl, .list admitted fits rowed⟩, reads.of_cleared⟩
  · have running : (state.cleared : State String).failed = false := running
    have fatal : (after limit (levels + 1) scope (item limit cell) state.cleared).failedFatally := by
      rw [after_item_of_refused running (Nat.not_lt.mp admitted)]
      rfl
    obtain ⟨bound, steps⟩ := Nat.exists_eq_add_one.mpr
      (Nat.zero_lt_of_lt (Parser.byteLength_rest_lt_stepBound state))
    rw [steps, Parser.separateFrom_of_fatal fatal] at succeeds
    exact absurd succeeds (State.not_running_of_failedFatally fatal)

theorem list_sound (sound : ValueSound limit levels) (running : state.failed = false)
    (enough : limit.toNat < levels + 1 + state.depth)
    (succeeds : (after limit (levels + 1) scope (list limit cell) state).failed = false) :
    ∃ items written rest, Fits limit state.depth (.list items) written ∧
      state.Reads written rest (.list items)
        (after limit (levels + 1) scope (list limit cell) state) := by
  obtain ⟨_, inside, rest, ⟨items, rfl, fits⟩, reads⟩ := Parser.between_sound
    (Parser.literal_matches '[' rfl) (Parser.literal_matches ']' rfl) running
    (fun inner running same succeeds => same ▸ items_sound sound running (by omega) succeeds) succeeds
  exact ⟨items, _, rest, fits, reads⟩

theorem value_sound (limit : UInt64) (levels : Nat) : ValueSound limit levels := by
  induction levels with
  | zero =>
    intro scope state _ enough admitted
    omega
  | succ levels ih =>
    intro scope state running enough admitted succeeds
    by_cases rejected : (after limit (levels + 1) scope (list limit 0) state).Rejected
    · rw [after_value_of_rejected running rejected] at succeeds ⊢
      rcases Parser.choose_word_cases running with
        ⟨kind, word, rest, nonempty, accepted, reads⟩ | rejected
      · refine ⟨_, word, rest, ⟨.word kind nonempty accepted, ?_⟩, reads⟩
        simpa [Output.listDepth] using admitted
      · exact absurd succeeds rejected.not_running
    · rw [after_value_of_kept running rejected] at succeeds ⊢
      obtain ⟨items, written, rest, fits, reads⟩ := list_sound ih running enough succeeds
      exact ⟨_, written, rest, fits, reads⟩

/-- What is written for an output is read, unless a word could go on. -/
def ValueReads (limit : UInt64) (output : Output String) (written : List Char) : Prop :=
  ∀ (levels : Nat) (scope : Address) {state : State String} {rest : List Char},
    state.failed = false → limit.toNat < levels + state.depth →
    output.listDepth + state.depth ≤ limit.toNat → state.rest = written ++ rest →
    (∀ kind : CharRun, rest.head?.any kind.accepts = false) →
    state.Reads written rest output (after limit levels scope (value limit) state)

theorem item_reads {output : Output String} {written rest : List Char}
    (reads : ValueReads limit output written) (running : state.failed = false)
    (enough : limit.toNat < levels + 1 + state.depth)
    (shallow : output.listDepth + (state.depth + 1) ≤ limit.toNat)
    (remains : state.rest = written ++ rest)
    (stops : ∀ kind : CharRun, rest.head?.any kind.accepts = false) :
    state.Reads written rest output (after limit (levels + 1) scope (item limit cell) state) := by
  rw [after_item_of_admitted running (by omega)]
  have deeper : limit.toNat < levels + (state.depth + 1) := by omega
  have inner : State.Reads (state.cleared.atDepth (state.depth + 1)) written rest output _ :=
    reads levels (cell :: scope) running deeper shallow remains stops
  refine ⟨remains, ?_⟩
  rw [inner.after_eq]
  rfl

theorem value_rejects (running : state.failed = false) (closing : state.rest.head? = some ']') :
    (after limit (levels + 1) scope (value limit) state).Rejected := by
  rw [after_value_of_rejected running (list_rejects running (by simp [closing]))]
  refine Parser.choose_word_rejects running fun kind => ?_
  rw [closing]
  cases kind <;> rfl

theorem item_rejects (running : state.failed = false) (admitted : state.depth < limit.toNat)
    (enough : limit.toNat < levels + 1 + state.depth) (closing : state.rest.head? = some ']') :
    (after limit (levels + 1) scope (item limit cell) state).Rejected := by
  rw [after_item_of_admitted running admitted]
  cases levels with
  | zero => omega
  | succ levels => exact value_rejects running closing

theorem list_reads {pieces : List (Output String × List Char)} {trailing rest : List Char}
    (reads : ∀ piece ∈ pieces, ValueReads limit piece.1 piece.2)
    (allowed : trailing = [] ∨ trailing = [','] ∧ pieces ≠ []) (levels : Nat) (scope : Address)
    (cell : Nat) (running : state.failed = false)
    (enough : limit.toNat < levels + 1 + state.depth)
    (shallow : (Output.list (pieces.map Prod.fst)).listDepth + state.depth ≤ limit.toNat)
    (remains : state.rest =
      '[' :: ([','].intercalate (pieces.map Prod.snd) ++ trailing ++ [']']) ++ rest) :
    state.Reads ('[' :: ([','].intercalate (pieces.map Prod.snd) ++ trailing ++ [']'])) rest
      (.list (pieces.map Prod.fst))
      (after limit (levels + 1) scope (list limit cell) state) := by
  have rowed : Row (pieces.map Prod.snd) ([','].intercalate (pieces.map Prod.snd) ++ trailing) :=
    row_iff.mpr ⟨trailing, by simpa using allowed, rfl⟩
  generalize [','].intercalate (pieces.map Prod.snd) ++ trailing = row at *
  have remains : state.rest = '[' :: (row ++ ']' :: rest) := by simpa using remains
  refine Parser.between_reads (Parser.literal_matches '[' rfl) (Parser.literal_matches ']' rfl)
    running ?_ remains
  intro inner running same remains
  change State.Reads inner row (']' :: rest) _ (after limit (levels + 1) scope (items limit cell) inner)
  rw [after_items running]
  refine (Parser.separateFrom_reads (Parser.literal_matches ',' rfl) ?_ ?_ rowed inner.cleared running
    same remains (Parser.byteLength_rest_lt_stepBound inner)).of_cleared
  · intro piece member state' rest running deep remains stops
    refine item_reads (reads piece member) running (by omega) ?_ remains stops
    have items := Output.listDepthOfItems_le.mp (Nat.le_refl _) piece.1 (List.mem_map_of_mem member)
    simp only [Output.listDepth] at shallow
    omega
  · intro state' running deep closing
    refine item_rejects running ?_ (by omega) closing
    simp only [Output.listDepth] at shallow
    omega

/-- A run is read as a value, if it cannot go on. -/
theorem word_value_reads {kind : CharRun} {word rest : List Char} (running : state.failed = false)
    (nonempty : word ≠ []) (accepted : ∀ char ∈ word, kind.accepts char = true)
    (stops : rest.head?.any kind.accepts = false) (remains : state.rest = word ++ rest) :
    state.Reads word rest (.value (String.ofList word))
      (after limit (levels + 1) scope (value limit) state) := by
  have other : state.rest.head? ≠ some '[' := by
    rw [remains]
    cases word with
    | nil => contradiction
    | cons char word =>
      rintro ⟨rfl⟩
      have refused : kind.accepts '[' = false := by cases kind <;> rfl
      simp [refused] at accepted
  rw [after_value_of_rejected running (list_rejects running other)]
  exact Parser.choose_word_reads running remains nonempty accepted stops

theorem Renders.valueReads {output : Output String} {written : List Char}
    (renders : Renders output written) : ValueReads limit output written := by
  induction renders with
  | @word word kind nonempty accepted =>
    intro levels scope state rest running enough shallow remains stops
    cases levels with
    | zero =>
      simp only [Output.listDepth] at shallow
      omega
    | succ levels => exact word_value_reads running nonempty accepted (stops kind) remains
  | @list pieces trailing _ allowed ih =>
    intro levels scope state rest running enough shallow remains _
    cases levels with
    | zero => omega
    | succ levels =>
      have reads := list_reads ih allowed levels scope 0 running enough shallow remains
      rw [after_value_of_kept running (reads.kept running)]
      exact reads

/-- A list is accepted if and only if it is written at the start and within the limit. -/
theorem nestedWithin_accepts_iff (limit : UInt64) (text : String) (position : Nat)
    (output : Output String) :
    (((nestedWithin limit 0 Rule.value).parse (grammarWithin limit) text).failed = false ∧
        ((nestedWithin limit 0 Rule.value).parse (grammarWithin limit) text).position = position ∧
        ((nestedWithin limit 0 Rule.value).parse (grammarWithin limit) text).result = output) ↔
      (∃ items, output = .list items) ∧ output.listDepth ≤ limit.toNat ∧
        ∃ written rest, text.toList = written ++ rest ∧ Text.byteLength written = position ∧
          Renders output written := by
  obtain ⟨levels, enough, parsed⟩ :=
    Parser.parse_eq_traceLevels (grammarWithin limit) (list limit 0) text
  have start : (State.start text : State String).rest = text.toList := Parser.rest_start text
  have enough : limit.toNat < levels + 1 + (State.start text : State String).depth := enough limit
  rw [parsed]
  constructor
  · rintro ⟨succeeds, rfl, rfl⟩
    obtain ⟨items, written, rest, fits, reads⟩ :=
      list_sound (value_sound limit levels) rfl enough succeeds
    rw [reads.result, reads.position]
    refine ⟨⟨items, rfl⟩, fits.2, written, rest, start ▸ reads.remains, ?_, fits.1⟩
    exact (Nat.zero_add _).symm
  · rintro ⟨⟨items, rfl⟩, shallow, written, rest, remains, rfl, renders⟩
    cases renders with
    | list renders allowed =>
      have reads := list_reads (fun piece member => (renders piece member).valueReads) allowed levels
        [] 0 rfl enough shallow (start.trans remains)
      refine ⟨reads.failed, reads.position.trans (Nat.zero_add _), reads.result⟩

/-- Nested lists are accepted if and only if they are written at the start, with as many bytes and
for the output that come out. What follows them does not matter. -/
theorem nested_accepts_renderings (text : String) :
    (∀ (position : Nat) (output : Output String),
      ((Kind.nested.parse text).failed = false ∧ (Kind.nested.parse text).position = position ∧
          (Kind.nested.parse text).result = output) ↔
        (∃ items, output = .list items) ∧ output.listDepth ≤ 256 ∧
          ∃ written rest, text.toList = written ++ rest ∧ Text.byteLength written = position ∧
            Renders output written) ∧
      ∀ written rest other : List Char, (Kind.nested.parse text).failed = false →
        text.toList = written ++ rest →
        Text.byteLength written = (Kind.nested.parse text).position →
        (Kind.nested.parse (.ofList (written ++ other))).failed = false ∧
          (Kind.nested.parse (.ofList (written ++ other))).position =
            (Kind.nested.parse text).position ∧
          (Kind.nested.parse (.ofList (written ++ other))).result =
            (Kind.nested.parse text).result := by
  have accepts (text : String) := nestedWithin_accepts_iff defaultLimit text
  refine ⟨accepts text, ?_⟩
  intro written rest other succeeds remains length
  obtain ⟨list, shallow, written', rest', remains', length', renders⟩ :=
    (accepts text _ _).mp ⟨succeeds, rfl, rfl⟩
  have same : written' = written :=
    Text.append_inj_of_byteLength (remains'.symm.trans remains) (length'.trans length.symm)
  subst same
  exact (accepts _ _ _).mpr
    ⟨list, shallow, written', other, String.toList_ofList, length, renders⟩

end Brackets

end Descent
