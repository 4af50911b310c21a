import Descent.Proofs.Places
import Descent.Proofs.Separation
import Mathlib.Data.List.Nodup
import Mathlib.Data.List.Perm.Subperm
import Mathlib.Order.Preorder.Finite

set_option autoImplicit false

/-!
Loops over steps that may move anywhere.

A loop stops where a turn leaves the position as it was, and nowhere else by itself: after a turn
that moves back it goes on, and if it comes to a position a second time then it never ends. So of
the positions from which the turns of a loop start no two are the same (`Turns.nodup_positions`), a
loop that ends does so within as many turns as the text has room for, and one that never moves back
does end, within one turn more than bytes follow.
-/

namespace Descent

open Text (IsPlace)

namespace State

variable {α β γ : Type}

/-- The second state is at the same position or at any place of the same text. -/
structure Lands (before : State α) (after : State β) : Prop where
  text : after.text = before.text
  depth : after.depth = before.depth
  place : after.position = before.position ∨ IsPlace before.text after.position

theorem Lands.trans {first : State α} {second : State β} {third : State γ}
    (one : first.Lands second) (two : second.Lands third) : first.Lands third := by
  refine ⟨two.text.trans one.text, two.depth.trans one.depth, ?_⟩
  rcases two.place with same | place
  · rw [same]
    exact one.place
  · rw [one.text] at place
    exact .inr place

theorem Lands.cleared {before : State α} {after : State β} (lands : before.Lands after) :
    before.Lands (after.cleared : State γ) :=
  ⟨lands.text, lands.depth, lands.place⟩

theorem Lands.le_utf8ByteSize {before : State α} {after : State β} (lands : before.Lands after)
    (moved : after.position ≠ before.position) : after.position ≤ before.text.utf8ByteSize :=
  (lands.place.resolve_left moved).le_utf8ByteSize

theorem Advances.lands {before : State α} {after : State β} (forward : before.Advances after) :
    before.Lands after := by
  refine ⟨forward.text_eq, forward.2, ?_⟩
  obtain ⟨count, moved⟩ := forward.1
  rw [State.position, moved]
  by_cases place : IsPlace before.text before.position
  · exact .inr (Text.Cursor.isPlace_advance place count)
  · exact .inl (Text.Cursor.position_advance_of_not_isPlace place count)

/-- A state from which a loop in a text may take a turn. -/
structure Ready (text : String) (depth : Nat) (state : State α) : Prop where
  running : state.failed = false
  empty : state.result = .empty
  text_eq : state.text = text
  depth_eq : state.depth = depth

theorem Ready.ext {text : String} {depth : Nat} {state other : State α}
    (ready : state.Ready text depth) (ready' : other.Ready text depth)
    (position : state.position = other.position) : state = other := by
  obtain ⟨cursor, result, error, level⟩ := state
  obtain ⟨cursor', result', error', level'⟩ := other
  obtain rfl : cursor = cursor' :=
    Text.Cursor.ext (ready.text_eq.trans ready'.text_eq.symm) position
  obtain rfl : result = result' := ready.empty.trans ready'.empty.symm
  obtain rfl : error = error' :=
    (error_eq_none ready.running).trans (error_eq_none ready'.running).symm
  obtain rfl : level = level' := ready.depth_eq.trans ready'.depth_eq.symm
  rfl

end State

/-- A turn that is followed by another ends elsewhere in the text than it started. -/
def Turn.KeepsToText {α : Type} (turn : State α → Turn α) : Prop :=
  ∀ (state : State α) (item : Output α) (next : State α), state.failed = false →
    turn state = .more item next →
    next.failed = false ∧ next.result = .empty ∧ state.Lands next ∧ next.position ≠ state.position

/-- From where the turn with the given number starts, if the loop takes so many turns. -/
def nthStart? {α : Type} (turn : State α → Turn α) : (number : Nat) → State α → Option (State α)
  | 0, state => some state
  | number + 1, state =>
    match turn state with
    | .last _ => none
    | .more _ next => nthStart? turn number next

section NthStart

variable {α : Type} {turn : State α → Turn α} {state : State α}

theorem nthStart?_succ_of_more {item : Output α} {next : State α}
    (goesOn : turn state = .more item next) (number : Nat) :
    nthStart? turn (number + 1) state = nthStart? turn number next := by
  rw [nthStart?, goesOn]

theorem exists_turns_of_nthStart {number : Nat} (ended : nthStart? turn number state = none) :
    ∃ starts after, Turns turn starts state after := by
  induction number generalizing state with
  | zero => cases ended
  | succ number ih =>
    cases result : turn state with
    | last after => exact ⟨_, after, .last result⟩
    | more item next =>
      rw [nthStart?_succ_of_more result] at ended
      obtain ⟨starts, after, turns⟩ := ih ended
      exact ⟨_, _, .more result turns⟩

theorem ready_nthStart {text : String} {depth : Nat} (keeps : Turn.KeepsToText turn)
    (ready : state.Ready text depth) {number : Nat} {start : State α}
    (reached : nthStart? turn number state = some start) :
    start.Ready text depth ∧
      start.position ∈ state.position :: List.range (text.utf8ByteSize + 1) := by
  induction number generalizing state with
  | zero =>
    obtain rfl := Option.some.inj reached
    exact ⟨ready, List.mem_cons_self⟩
  | succ number ih =>
    cases result : turn state with
    | last after => simp [nthStart?, result] at reached
    | more item next =>
      obtain ⟨running, empty, lands, moved⟩ := keeps _ _ _ ready.running result
      have inside := lands.le_utf8ByteSize moved
      rw [ready.text_eq] at inside
      rw [nthStart?_succ_of_more result] at reached
      obtain ⟨start_ready, place⟩ := ih
        ⟨running, empty, lands.text.trans ready.text_eq, lands.depth.trans ready.depth_eq⟩ reached
      refine ⟨start_ready, List.mem_cons_of_mem _ ?_⟩
      rcases List.mem_cons.mp place with same | inside'
      · rw [same]
        exact List.mem_range.mpr (Nat.lt_succ_of_le inside)
      · exact inside'

/-- A loop that does not end comes to a position twice. -/
theorem exists_same_position {text : String} {depth : Nat} (keeps : Turn.KeepsToText turn)
    (ready : state.Ready text depth) (endless : ∀ starts after, ¬Turns turn starts state after) :
    ∃ early late first second, early < late ∧ nthStart? turn early state = some first ∧
      nthStart? turn late state = some second ∧ first.position = second.position := by
  have reaches (number : Nat) : ∃ start, nthStart? turn number state = some start := by
    cases reached : nthStart? turn number state with
    | none =>
      obtain ⟨starts, after, turns⟩ := exists_turns_of_nthStart reached
      exact absurd turns (endless starts after)
    | some start => exact ⟨start, rfl⟩
  choose start reached using reaches
  -- There are infinitely many turns, and only so many positions for them to start from.
  have inside : Set.MapsTo (fun number => (start number).position) Set.univ
      {position | position ∈ state.position :: List.range (text.utf8ByteSize + 1)} :=
    fun number _ => (ready_nthStart keeps ready (reached number)).2
  obtain ⟨early, _, late, _, before, same⟩ :=
    Set.infinite_univ.exists_lt_map_eq_of_mapsTo inside (List.finite_toSet _)
  exact ⟨early, late, _, _, before, reached early, reached late, same⟩

end NthStart

namespace Turns

variable {α : Type} {turn : State α → Turn α} {starts : List (State α)} {state after : State α}

/-- From each of its starts on, a loop ends with no more turns than from the first. -/
theorem of_mem (turns : Turns turn starts state after) {start : State α} (member : start ∈ starts) :
    ∃ rest after, Turns turn rest start after ∧ rest.length ≤ starts.length := by
  induction turns with
  | last ended =>
    obtain rfl := List.mem_singleton.mp member
    exact ⟨_, _, .last ended, Nat.le_refl _⟩
  | more goesOn turns ih =>
    rcases List.mem_cons.mp member with rfl | later
    · exact ⟨_, _, .more goesOn turns, Nat.le_refl _⟩
    · obtain ⟨rest, after, turns, fewer⟩ := ih later
      exact ⟨rest, after, turns, Nat.le_succ_of_le fewer⟩

/-- A loop that ends never takes a turn from the same state again. -/
theorem nodup (turns : Turns turn starts state after) : starts.Nodup := by
  induction turns with
  | last _ => exact List.nodup_singleton _
  | more goesOn turns ih =>
    refine List.nodup_cons.mpr ⟨fun member => ?_, ih⟩
    -- From the same state the same turns would follow, and they would be fewer.
    obtain ⟨rest, _, again, fewer⟩ := turns.of_mem member
    obtain ⟨rfl, _⟩ := again.unique (.more goesOn turns)
    exact absurd fewer (by simp)

/-- A loop that comes back after two turns does not end. -/
theorem not_of_return {next : State α} {item item' : Output α}
    (goesOn : turn state = .more item next) (returns : turn next = .more item' state) :
    ¬Turns turn starts state after := by
  intro turns
  cases turns with
  | last ended => cases goesOn.symm.trans ended
  | more goesOn' turns =>
    cases goesOn.symm.trans goesOn'
    cases turns with
    | last ended => cases returns.symm.trans ended
    | more returns' turns =>
      cases returns.symm.trans returns'
      obtain ⟨same, _⟩ := turns.unique (.more goesOn (.more returns turns))
      have length := congrArg List.length same
      simp only [List.length_cons] at length
      omega

theorem exists_nthStart (turns : Turns turn starts state after) {start : State α}
    (member : start ∈ starts) : ∃ number, nthStart? turn number state = some start := by
  induction turns with
  | last _ =>
    obtain rfl := List.mem_singleton.mp member
    exact ⟨0, rfl⟩
  | more goesOn _ ih =>
    rcases List.mem_cons.mp member with rfl | later
    · exact ⟨0, rfl⟩
    · obtain ⟨number, reached⟩ := ih later
      exact ⟨number + 1, (nthStart?_succ_of_more goesOn number).trans reached⟩

variable {text : String} {depth : Nat}

theorem nodup_positions (keeps : Turn.KeepsToText turn) (turns : Turns turn starts state after)
    (ready : state.Ready text depth) : (starts.map State.position).Nodup := by
  refine turns.nodup.map_on fun _ member _ member' same => ?_
  obtain ⟨_, reached⟩ := turns.exists_nthStart member
  obtain ⟨_, reached'⟩ := turns.exists_nthStart member'
  exact (ready_nthStart keeps ready reached).1.ext (ready_nthStart keeps ready reached').1 same

/-- A loop that ends takes no more turns than there are positions in the text, and one. -/
theorem length_le (keeps : Turn.KeepsToText turn) (turns : Turns turn starts state after)
    (ready : state.Ready text depth) : starts.length ≤ text.utf8ByteSize + 2 := by
  have inside : starts.map State.position ⊆
      state.position :: List.range (text.utf8ByteSize + 1) := by
    intro position reached
    obtain ⟨start, member, rfl⟩ := List.mem_map.mp reached
    obtain ⟨_, reached⟩ := turns.exists_nthStart member
    exact (ready_nthStart keeps ready reached).2
  have few := (List.subperm_of_subset (turns.nodup_positions keeps ready) inside).length_le
  simpa using few

end Turns

/-- How a loop goes whose turns keep to the text. -/
structure LoopInText {α : Type} (turn : State α → Turn α) (loop : State α → State α)
    (state : State α) : Prop where
  /-- A turn that stays is the last one. -/
  moves : ∀ (before : State α) (item : Output α) (next : State α), before.failed = false →
    turn before = .more item next → next.position ≠ before.position
  /-- If the loop ends, then no two turns start at the same position. -/
  ends : ∀ (starts : List (State α)) (after : State α), Turns turn starts state.cleared after →
    loop state = after ∧ (starts.map State.position).Nodup ∧
      starts.length ≤ state.text.utf8ByteSize + 2
  /-- If it does not end, then two turns do. -/
  returns : (∀ starts after, ¬Turns turn starts state.cleared after) →
    ∃ early late first second, early < late ∧ nthStart? turn early state.cleared = some first ∧
      nthStart? turn late state.cleared = some second ∧ first.position = second.position
  /-- If no turn moves back, then it ends within one turn more than bytes follow. -/
  forward : (∀ (before : State α) (item : Output α) (next : State α), before.failed = false →
      before.text = state.text → turn before = .more item next →
      before.position ≤ next.position) →
    ∃ starts after, Turns turn starts state.cleared after ∧ loop state = after ∧
      starts.length ≤ state.text.utf8ByteSize - state.position + 1

theorem LoopInText.of_keepsToText {α : Type} {turn : State α → Turn α} (keeps : Turn.KeepsToText turn)
    {loop : State α → State α} {state : State α} (running : state.failed = false)
    (comes : ∀ (starts : List (State α)) (after : State α), Turns turn starts state.cleared after →
      starts.length ≤ Parser.stepBound state → loop state = after) :
    LoopInText turn loop state := by
  have ready : (state.cleared : State α).Ready state.text state.depth := ⟨running, rfl, rfl, rfl⟩
  have ends (starts : List (State α)) (after : State α)
      (turns : Turns turn starts state.cleared after) :
      loop state = after ∧ (starts.map State.position).Nodup ∧
        starts.length ≤ state.text.utf8ByteSize + 2 := by
    have few := turns.length_le keeps ready
    have room : state.text.utf8ByteSize + 2 ≤ Parser.stepBound state :=
      Nat.add_le_add_left (by decide) _
    exact ⟨comes starts after turns (Nat.le_trans few room), turns.nodup_positions keeps ready, few⟩
  have moves (before : State α) (item : Output α) (next : State α) (going : before.failed = false)
      (goesOn : turn before = .more item next) : next.position ≠ before.position :=
    (keeps before item next going goesOn).2.2.2
  refine ⟨moves, ends, exists_same_position keeps ready, fun onward => ?_⟩
  let Stays (before : State α) : Prop := before.failed = false ∧ before.text = state.text
  have nearer (before : State α) (item : Output α) (next : State α) (stays : Stays before)
      (goesOn : turn before = .more item next) :
      Stays next ∧ state.text.utf8ByteSize - next.position <
        state.text.utf8ByteSize - before.position := by
    obtain ⟨next_running, _, lands, moved⟩ := keeps before item next stays.1 goesOn
    have inside := lands.le_utf8ByteSize moved
    have further := onward before item next stays.1 stays.2 goesOn
    rw [stays.2] at inside
    exact ⟨⟨next_running, lands.text.trans stays.2⟩, by omega⟩
  have start : Stays state.cleared := ⟨running, rfl⟩
  obtain ⟨starts, after, turns, few⟩ := exists_turns Stays _ nearer start
  exact ⟨starts, after, turns, (ends starts after turns).1, few⟩

namespace Parser

variable {R : Type → Type} {α σ : Type}

/-- Where the parser succeeds, it lands in the text of the state before. -/
def KeepsToText (grammar : Grammar R) (parser : Parser R α) : Prop :=
  ∀ state : State α, state.failed = false → (parser.apply grammar state).failed = false →
    state.Lands (parser.apply grammar state)

variable {grammar : Grammar R} {separator : Parser R σ} {body value : Parser R α}

theorem Standard.keepsToText (rules : grammar.Standard) {parser : Parser R α}
    (standard : parser.Standard) : parser.KeepsToText grammar :=
  fun state _ _ => (apply_advances rules standard state).lands

theorem keepsToText_ofStep (keeps : body.KeepsToText grammar) :
    Turn.KeepsToText (Turn.ofStep (body.apply grammar)) := by
  intro state item next running goesOn
  obtain ⟨found, moved, _, rfl⟩ := Turn.ofStep_more goesOn
  exact ⟨found, rfl, (keeps state running found).cleared, moved⟩

theorem keepsToText_ofRound (separatorKeeps : separator.KeepsToText grammar)
    (valueKeeps : value.KeepsToText grammar) :
    Turn.KeepsToText (Turn.ofRound (separator.apply grammar) (value.apply grammar)) := by
  intro state item next running goesOn
  obtain ⟨found, parted, moved, _, rfl⟩ := Turn.ofRound_more goesOn
  have first : state.Lands ((value.apply grammar state).cleared : State σ) :=
    (valueKeeps state running found).cleared
  have second : ((value.apply grammar state).cleared : State σ).Lands
      ((separator.apply grammar (value.apply grammar state).cleared).cleared : State α) :=
    (separatorKeeps _ found parted).cleared
  exact ⟨parted, rfl, first.trans second, moved⟩

/-- Whatever the body and the separator do within the text, a loop stops where it stays, and it ends
exactly if it does not come to a position again. -/
theorem loops_end_unless_circling (bodyKeeps : body.KeepsToText grammar)
    (separatorKeeps : separator.KeepsToText grammar) {state : State α}
    (running : state.failed = false) :
    LoopInText (Turn.ofStep (body.apply grammar)) ((Parser.many body).apply grammar) state ∧
      (Parser.many1 body).apply grammar state =
        ((Parser.many body).apply grammar state).requireItems .emptyRepetition ∧
      LoopInText (Turn.ofRound (separator.apply grammar) (body.apply grammar))
        ((Parser.sepBy separator body).apply grammar) state ∧
      (Parser.sepBy1 separator body).apply grammar state =
        ((Parser.sepBy separator body).apply grammar state).requireItems .emptySeparatedList := by
  refine ⟨?_, apply_many1 grammar body running, ?_, apply_sepBy1 grammar separator body running⟩
  · exact .of_keepsToText (keepsToText_ofStep bodyKeeps) running
      fun starts after => apply_many_of_turns running
  · exact .of_keepsToText (keepsToText_ofRound separatorKeeps bodyKeeps) running
      fun starts after => apply_sepBy_of_turns running

end Parser

namespace Brackets

/-- An item at the start of the text, from wherever it is looked for. -/
def rewinding : Parser Rule String :=
  .custom "rewinding" (.move (fun state => state.withProgress 0 (.value "x")) .done)

/-- The end of the text from its start, and its start from anywhere else. -/
def swinging : Parser Rule String :=
  .custom "swinging" (.move (fun state => state.withProgress
    (if state.position = 0 then state.text.utf8ByteSize else 0) (.value "x")) .done)

theorem rewinding_keepsToText : rewinding.KeepsToText grammar :=
  fun _ _ _ => ⟨rfl, rfl, .inr String.Pos.Raw.isValid_zero⟩

theorem swinging_keepsToText : swinging.KeepsToText grammar := by
  intro state _ _
  refine ⟨rfl, rfl, .inr ?_⟩
  change Text.IsPlace state.text (if state.position = 0 then state.text.utf8ByteSize else 0)
  split
  · exact String.Pos.Raw.isValid_rawEndPos
  · exact String.Pos.Raw.isValid_zero

/-- The end of a text of two bytes. -/
abbrev atEnd : State String := ⟨.place "ab" 2, .empty, none, 0⟩

/-- An item is found further back, and the loop goes on from there before it ends. Commas are never
found further back. -/
theorem rewinding_and_commas_end :
    (Parser.many rewinding).apply grammar atEnd =
        ⟨.place "ab" 0, .list [.value "x", .value "x"], none, 0⟩ ∧
      ∃ starts, Turns (Turn.ofStep ((Parser.literal ",").apply grammar)) starts (.start ",,ab")
          ((Parser.many (.literal ",")).apply grammar (.start ",,ab")) ∧
        starts.length ≤ 5 := by
  have rules : grammar.Standard := grammarWithin_standard defaultLimit
  have standard : (Parser.literal "," : Parser Rule String).Standard := .literal ","
  have comma := standard.keepsToText rules
  have running : atEnd.failed = false := rfl
  have running' : (State.start ",,ab" : State String).failed = false := rfl
  obtain ⟨back, _⟩ := Parser.loops_end_unless_circling rewinding_keepsToText comma running
  obtain ⟨commas, _⟩ := Parser.loops_end_unless_circling comma comma running'
  constructor
  · let next : State String := (rewinding.apply grammar atEnd).cleared
    have first : Turn.ofStep (rewinding.apply grammar) atEnd.cleared = .more (.value "x") next := rfl
    have second : Turn.ofStep (rewinding.apply grammar) next =
        .last (next.withResult (.list [.value "x"])) := rfl
    exact (back.ends _ _ (.more first (.last second))).1
  · obtain ⟨starts, _, turns, rfl, few⟩ := commas.forward fun before item next _ _ goesOn => by
      obtain ⟨_, _, _, rfl⟩ := Turn.ofStep_more goesOn
      exact (Parser.apply_advances rules standard before).position_le
    exact ⟨starts, turns, few⟩

/-- A loop does go on after a step that moves back, and it need not end within one step more than
bytes remain, nor at all. -/
theorem moving_back_goes_on :
    (¬∀ (body : Parser Rule String) (state : State String), body.KeepsToText grammar →
        state.failed = false → (body.apply grammar state).failed = false →
        (body.apply grammar state).position ≤ state.position →
        (Parser.many body).apply grammar state =
          (body.apply grammar state).withResult (.list [(body.apply grammar state).result])) ∧
      ¬∀ (body : Parser Rule String) (state : State String), body.KeepsToText grammar →
        state.failed = false →
        ∃ starts after, Turns (Turn.ofStep (body.apply grammar)) starts state.cleared after ∧
          starts.length ≤ Text.byteLength state.rest + 1 := by
  constructor
  · intro claimed
    have stopped := claimed rewinding atEnd rewinding_keepsToText rfl rfl (by decide)
    exact absurd (congrArg State.result stopped) (by decide +kernel)
  · intro claimed
    obtain ⟨starts, after, turns, _⟩ := claimed swinging (.start "ab") swinging_keepsToText rfl
    have there : Turn.ofStep (swinging.apply grammar) (.start "ab") = .more (.value "x") atEnd :=
      rfl
    have back : Turn.ofStep (swinging.apply grammar) atEnd = .more (.value "x") (.start "ab") := rfl
    exact Turns.not_of_return there back turns

end Brackets

end Descent
