import Descent.Proofs.Standard

set_option autoImplicit false

/-!
Places in a text.

A standard parser that starts at a place between characters only ever visits such places, further
on in the text; anywhere else it does not move. No rule is entered where as many are open as a
64-bit number can tell. `OrderlyFrom` says so of the events of a run, read from the first on with the
number of rules that are open, and `Traced.Orderly` of a part that leaves this number as it was.
-/

namespace Descent

namespace Text

/-- The position is a place between two characters of the text, or one of its ends. -/
abbrev IsPlace (text : String) (position : Nat) : Prop := String.Pos.Raw.IsValid text ⟨position⟩

theorem isPlace_iff {text : String} {position : Nat} :
    IsPlace text position ↔
      ∃ before after, text.toList = before ++ after ∧ byteLength before = position := by
  rw [IsPlace, String.Pos.Raw.isValid_iff_exists_append]
  constructor
  · rintro ⟨before, after, rfl, same⟩
    refine ⟨before.toList, after.toList, String.toList_append, ?_⟩
    rw [byteLength_toList]
    exact (congrArg String.Pos.Raw.byteIdx same).symm
  · rintro ⟨before, after, split, rfl⟩
    refine ⟨.ofList before, .ofList after, ?_, ?_⟩
    · rw [← String.ofList_append, ← split, String.ofList_toList]
    · exact String.Pos.Raw.ext (utf8ByteSize_ofList before).symm

theorem IsPlace.le_utf8ByteSize {text : String} {position : Nat} (place : IsPlace text position) :
    position ≤ text.utf8ByteSize := by
  obtain ⟨before, after, split, rfl⟩ := isPlace_iff.mp place
  rw [← byteLength_toList, split, byteLength_append]
  exact Nat.le_add_right _ _

namespace Cursor

variable {cursor : Cursor}

/-- Where something remains there is a place. -/
theorem rest_eq_nil (none : ¬IsPlace cursor.text cursor.position) : cursor.rest = [] := by
  cases remains : cursor.rest with
  | nil => rfl
  | cons char rest =>
    rw [cursor.rest_eq] at remains
    obtain ⟨before, split, length⟩ := exists_append_of_dropBytes remains
    exact absurd (isPlace_iff.mpr ⟨before, _, split, length⟩) none

theorem position_advance_of_not_isPlace (none : ¬IsPlace cursor.text cursor.position)
    (count : Nat) : (cursor.advance count).position = cursor.position := by
  simp [rest_eq_nil none]

/-- At a place, what remains is all that follows in the text. -/
theorem exists_append_rest (place : IsPlace cursor.text cursor.position) :
    ∃ before, cursor.text.toList = before ++ cursor.rest ∧ byteLength before = cursor.position := by
  obtain ⟨before, after, split, length⟩ := isPlace_iff.mp place
  refine ⟨before, ?_, length⟩
  rw [cursor.rest_eq, split, ← length, dropBytes_byteLength_append]

theorem isPlace_advance (place : IsPlace cursor.text cursor.position) (count : Nat) :
    IsPlace cursor.text (cursor.advance count).position := by
  obtain ⟨before, split, length⟩ := exists_append_rest place
  refine isPlace_iff.mpr ⟨before ++ cursor.rest.take count, cursor.rest.drop count, ?_, ?_⟩
  · rw [List.append_assoc, List.take_append_drop, split]
  · rw [byteLength_append, length, position_advance]

/-- No position that is reached from one of 64 bits needs more, if the text has no more bytes. -/
theorem position_advance_lt (fits : cursor.text.utf8ByteSize < UInt64.size)
    (start : cursor.position < UInt64.size) (count : Nat) :
    (cursor.advance count).position < UInt64.size := by
  by_cases place : IsPlace cursor.text cursor.position
  · exact Nat.lt_of_le_of_lt (isPlace_advance place count).le_utf8ByteSize fits
  · rwa [position_advance_of_not_isPlace place]

end Cursor

end Text

namespace Event

/-- The position that an event tells. After a match it is the sum of the position before it and of
the length of the match. -/
def position? : Event → Option Nat
  | .applied position | .returned position _ | .tried _ _ position | .rejected _ position
  | .matched _ position => some position
  | _ => none

/-- The number of open rules after an event, given the number before it. -/
def depthAfter (depth : Nat) : Event → Nat
  | .entered _ _ => depth + 1
  | .left => depth - 1
  | _ => depth

/-- Whether a rule is entered. -/
def isEntry : Event → Bool
  | .entered _ _ => true
  | _ => false

/-- An event that may happen while so many rules are open: it tells a position reached from the
given place, and if a rule is entered then the number of open rules stays one of 64 bits. -/
structure Admissible (cursor : Text.Cursor) (depth : Nat) (event : Event) : Prop where
  reached : ∀ position ∈ event.position?, ∃ count, (cursor.advance count).position = position
  room : event.isEntry = true → depth + 1 < UInt64.size

end Event

/-- All events are admissible, each with the number of rules that are open before it. -/
def OrderlyFrom (cursor : Text.Cursor) : Nat → List Event → Prop
  | _, [] => True
  | depth, event :: events =>
    event.Admissible cursor depth ∧ OrderlyFrom cursor (event.depthAfter depth) events

theorem orderlyFrom_append {cursor : Text.Cursor} {depth : Nat} {first second : List Event} :
    OrderlyFrom cursor depth (first ++ second) ↔
      OrderlyFrom cursor depth first ∧
        OrderlyFrom cursor (first.foldl Event.depthAfter depth) second := by
  induction first generalizing depth with
  | nil => simp [OrderlyFrom]
  | cons event events ih => simp [OrderlyFrom, ih, and_assoc]

/-- What is orderly from one place is so from every place before it. -/
theorem OrderlyFrom.of_advance {cursor : Text.Cursor} {count depth : Nat} {events : List Event}
    (orderly : OrderlyFrom (cursor.advance count) depth events) :
    OrderlyFrom cursor depth events := by
  induction events generalizing depth with
  | nil => trivial
  | cons event events ih =>
    refine ⟨⟨?_, orderly.1.room⟩, ih orderly.2⟩
    intro position told
    obtain ⟨more, reached⟩ := orderly.1.reached position told
    exact ⟨count + more, by rw [← reached, Text.Cursor.advance_advance]⟩

namespace Traced

variable {α β : Type}

/-- A part moves forward, through events that are admissible, and leaves as many rules open as it
finds. -/
structure Orderly (before : State α) (work : Traced (State β)) : Prop where
  forward : before.Advances work.value
  events : OrderlyFrom before.cursor before.depth work.events
  balanced : work.events.foldl Event.depthAfter before.depth = before.depth

namespace Orderly

variable {before : State α}

theorem of_pure {after : State β} (forward : before.Advances after) :
    Orderly before (pure after) := ⟨forward, trivial, rfl⟩

/-- What is orderly from a state further on is orderly from the state before it. -/
theorem later {γ : Type} {middle : State β} {work : Traced (State γ)}
    (forward : before.Advances middle) (orderly : Orderly middle work) : Orderly before work := by
  have events := orderly.events
  have balanced := orderly.balanced
  obtain ⟨count, moved⟩ := forward.1
  rw [forward.2] at events balanced
  rw [moved] at events
  exact ⟨forward.trans orderly.forward, events.of_advance, balanced⟩

/-- The second part may go back to the place before the first, if it gives up what that did. -/
theorem bind {γ : Type} {first : Traced (State β)} {next : State β → Traced (State γ)}
    (one : Orderly before first) (two : Orderly before (next first.value)) :
    Orderly before (first >>= next) := by
  refine ⟨two.forward, ?_, ?_⟩
  · rw [events_bind, orderlyFrom_append, one.balanced]
    exact ⟨one.events, two.events⟩
  · rw [events_bind, List.foldl_append, one.balanced, two.balanced]

theorem emit {event : Event} {work : Traced (State β)} (orderly : Orderly before work)
    (here : ∀ position ∈ event.position?, before.position = position)
    (same : event.depthAfter before.depth = before.depth) (within : event.isEntry = false) :
    Orderly before (do Traced.emit event; work) := by
  refine ⟨orderly.forward, ⟨⟨?_, by simp [within]⟩, ?_⟩, ?_⟩
  · intro position told
    exact ⟨0, by rw [Text.Cursor.advance_zero]; exact here position told⟩
  · rw [same]
    exact orderly.events
  · change work.events.foldl Event.depthAfter (event.depthAfter before.depth) = before.depth
    rw [same, orderly.balanced]

theorem map {γ : Type} {work : Traced (State β)} {change : State β → State γ}
    (orderly : Orderly before work)
    (keeps : before.Advances work.value → before.Advances (change work.value)) :
    Orderly before (change <$> work) := ⟨keeps orderly.forward, orderly.events, orderly.balanced⟩

/-- Orderly from a state is orderly from it with another result. -/
theorem of_cleared {γ : Type} {work : Traced (State β)}
    (orderly : Orderly (before.cleared : State γ) work) : Orderly before work :=
  ⟨orderly.forward, orderly.events, orderly.balanced⟩

end Orderly

end Traced

namespace Parser

open Traced (Orderly)

variable {R : Type → Type} {α β σ : Type}

theorem application_orderly {state : State α} {work : Traced (State α)}
    (orderly : Orderly state work) : Orderly state (application state work) := by
  refine Orderly.emit (orderly.bind (.later orderly.forward ?_)) (by simp [Event.position?]) rfl rfl
  exact Orderly.emit (.of_pure (.stay rfl rfl)) (by simp [Event.position?]) rfl rfl

theorem unlessFailed_orderly {state : State α} {work : Traced (State α)}
    (orderly : Orderly state work) :
    Orderly state (application state (unlessFailed state work)) := by
  apply application_orderly
  unfold unlessFailed
  split
  · exact .of_pure (.stay rfl rfl)
  · exact orderly

theorem matchLiteral_orderly (expected : String) (state : State String) :
    Orderly state (matchLiteral expected state) := by
  refine Orderly.emit ?_ (by simp [Event.position?]) rfl rfl
  split
  · exact .of_pure (.stay rfl rfl)
  · split
    · exact .of_pure ⟨⟨_, rfl⟩, rfl⟩
    · exact .of_pure (.stay rfl rfl)

theorem matchPattern_orderly (source : String) (matchLength? : List Char → Option Nat)
    (state : State String) : Orderly state (matchPattern source matchLength? state) := by
  refine Orderly.emit ?_ (by simp [Event.position?]) rfl rfl
  split
  · exact .of_pure (.stay rfl rfl)
  · split
    · exact .of_pure ⟨⟨_, rfl⟩, rfl⟩
    · exact .of_pure (.stay rfl rfl)

theorem prepend_orderly {before : State β} {work : Traced (State α)}
    (orderly : Orderly before work) (item : Output α) :
    Orderly before (State.prepend item <$> work) := orderly.map fun forward => forward.prepend item

theorem requireItems_orderly {before : State β} {work : Traced (State α)}
    (orderly : Orderly before work) (failure : Nat → Failure) :
    Orderly before (State.requireItems failure <$> work) :=
  orderly.map fun forward => forward.requireItems failure

/-- A part whose failure is that of the whole, and what is done after its success. -/
theorem bind_cleared_orderly {before : State σ} {first : Traced (State α)}
    {next : State α → Traced (State β)} (one : Orderly before first)
    (two : Orderly first.value (next first.value)) :
    Orderly before (do
      let after ← first
      if after.failed then return after.cleared else next after) := by
  refine one.bind (.later one.forward ?_)
  split
  · exact .of_pure (.stay rfl rfl)
  · exact two

theorem repeatFrom_orderly {step : State α → Traced (State α)}
    (orderly : ∀ state : State α, Orderly state (step state)) (bound : Nat) (state : State α) :
    Orderly state (repeatFrom step bound state) := by
  induction bound generalizing state with
  | zero => exact .of_pure (.stay rfl rfl)
  | succ bound ih =>
    have next := orderly state
    refine next.bind ?_
    split
    · exact .of_pure next.forward.cleared
    · split
      · exact .of_pure (.stay rfl rfl)
      · split
        · exact .of_pure next.forward
        · exact .later next.forward.cleared (prepend_orderly (ih _) _)

theorem separateFrom_orderly {separator : State σ → Traced (State σ)}
    {value : State α → Traced (State α)}
    (separatorOrderly : ∀ state : State σ, Orderly state (separator state))
    (valueOrderly : ∀ state : State α, Orderly state (value state)) (bound : Nat)
    (state : State α) : Orderly state (separateFrom separator value bound state) := by
  induction bound generalizing state with
  | zero => exact .of_pure (.stay rfl rfl)
  | succ bound ih =>
    have afterValue := valueOrderly state
    refine afterValue.bind ?_
    split
    · exact .of_pure afterValue.forward.cleared
    · split
      · exact .of_pure (.stay rfl rfl)
      · have afterSeparator := Orderly.later afterValue.forward.cleared (separatorOrderly _)
        refine afterSeparator.bind ?_
        split
        · exact .of_pure afterSeparator.forward.cleared
        · split
          · exact .of_pure afterValue.forward
          · split
            · exact .of_pure afterSeparator.forward
            · exact .later afterSeparator.forward.cleared (prepend_orderly (ih _) _)

variable {enter : Enter R} {scope : Address}

theorem sequenceWith_orderly {parsers : List (Parser R α)}
    (orderly : ∀ parser ∈ parsers, ∀ state : State α,
      Orderly state (traceWith enter scope parser state)) (state : State α) :
    Orderly state (sequenceWith enter scope (.ofList parsers) state) := by
  induction parsers generalizing state with
  | nil => exact .of_pure (.stay rfl rfl)
  | cons parser rest ih =>
    have goesOn := ih fun parser member => orderly parser (by simp [member])
    exact bind_cleared_orderly (orderly parser (by simp) state)
      (prepend_orderly (goesOn (State.cleared _)).of_cleared _)

theorem chooseWith_orderly {alternatives : List (Parser R α)}
    (orderly : ∀ parser ∈ alternatives, ∀ state : State α,
      Orderly state (traceWith enter scope parser state)) (state : State α) :
    Orderly state (chooseWith enter scope (.ofList alternatives) state) := by
  induction alternatives with
  | nil => exact .of_pure (.stay rfl rfl)
  | cons parser rest ih =>
    have next := orderly parser (by simp) state
    refine next.bind ?_
    split
    · exact .of_pure next.forward
    · refine Orderly.emit (ih ?_) (by simp [Event.position?]) rfl rfl
      exact fun parser member => orderly parser (by simp [member])

/-- What is done for a rule that may be entered. -/
def entering (enter : Enter R) (address : Address) (rule : R α) (state : State α) :
    Traced (State α) := do
  let after ← enter address rule (state.cleared.atDepth (state.depth + 1))
  return after.atDepth state.depth

theorem traceWith_orderly
    (enters : ∀ {α : Type} (address : Address) (rule : R α) (state : State α),
      state.depth + 1 < UInt64.size → Orderly state (entering enter address rule state))
    {parser : Parser R α} (standard : parser.Standard) (state : State α) :
    Orderly state (traceWith enter scope parser state) := by
  induction standard with
  | literal expected => exact unlessFailed_orderly (matchLiteral_orderly _ _)
  | pattern expected => exact unlessFailed_orderly (matchPattern_orderly _ _ _)
  | run kind => exact unlessFailed_orderly (matchPattern_orderly _ _ _)
  | sequence _ ih =>
    exact unlessFailed_orderly (sequenceWith_orderly ih state.cleared).of_cleared
  | choice _ ih => exact unlessFailed_orderly (chooseWith_orderly ih state)
  | many _ ih => exact unlessFailed_orderly (repeatFrom_orderly ih _ state.cleared).of_cleared
  | many1 _ ih =>
    exact unlessFailed_orderly
      (requireItems_orderly (repeatFrom_orderly ih _ state.cleared).of_cleared _)
  | sepBy _ _ separator value =>
    exact unlessFailed_orderly (separateFrom_orderly separator value _ state.cleared).of_cleared
  | sepBy1 _ _ separator value =>
    exact unlessFailed_orderly
      (requireItems_orderly (separateFrom_orderly separator value _ state.cleared).of_cleared _)
  | between _ _ _ left right content =>
    apply unlessFailed_orderly
    refine bind_cleared_orderly (left state.cleared).of_cleared ?_
    refine bind_cleared_orderly (content (State.cleared _)).of_cleared ?_
    refine bind_cleared_orderly (right (State.cleared _)).of_cleared ?_
    exact .of_pure (.stay rfl rfl)
  | lazy cell limit rule =>
    apply unlessFailed_orderly
    split
    · exact .of_pure (.stay rfl rfl)
    · have bounded := limit.toNat_lt
      exact enters (cell :: scope) rule state (by change _ < 2 ^ 64; omega)
  | named _ _ ih => exact ih state
  | map f _ ih =>
    apply application_orderly
    refine bind_cleared_orderly (ih state.cleared).of_cleared ?_
    exact Orderly.emit (.of_pure (.stay rfl rfl)) (by simp [Event.position?]) rfl rfl
  | chain _ _ first second =>
    apply application_orderly
    refine bind_cleared_orderly (first state.cleared).of_cleared ?_
    exact Orderly.emit (second _ (State.cleared _)).of_cleared (by simp [Event.position?]) rfl rfl
  | errorMap message _ ih =>
    apply application_orderly
    refine (ih state).bind (.later (ih state).forward ?_)
    split <;> exact .of_pure (.stay rfl rfl)

theorem traceLevels_orderly {grammar : Grammar R} (rules : grammar.Standard) (levels : Nat)
    (scope : Address) {parser : Parser R α} (standard : parser.Standard) (state : State α) :
    Orderly state (traceLevels grammar levels scope parser state) := by
  induction levels generalizing α scope with
  | zero => exact .of_pure (.stay rfl rfl)
  | succ levels ih =>
    rw [traceLevels_succ]
    refine traceWith_orderly ?_ standard state
    intro α address rule state room
    have body := ih address (rules α rule) (state.cleared.atDepth (state.depth + 1))
    have events : (entering (enterBody grammar levels) address rule state).events =
        .entered address (grammar α rule).name ::
          ((traceLevels grammar levels address (grammar α rule)
            (state.cleared.atDepth (state.depth + 1))).events ++ [.left]) := by
      simp [entering, enterBody]
    -- The events of the body stand between an entry and a leaving, so that one more rule is open.
    refine ⟨⟨body.forward.1, rfl⟩, ?_, ?_⟩
    · rw [events]
      refine ⟨⟨by simp [Event.position?], fun _ => room⟩, orderlyFrom_append.mpr ⟨body.events, ?_⟩⟩
      exact ⟨⟨by simp [Event.position?], by simp [Event.isEntry]⟩, trivial⟩
    · rw [events, List.foldl_cons, List.foldl_append]
      exact congrArg (Event.depthAfter · .left) body.balanced

/-- A standard parser that starts at a place of the text ends at one, further on or where it was;
anywhere else it does not move. The text and the number of open rules are the same afterwards. If
the text has no more bytes than 64 bits count, then so does every position that is told on the way,
and so does the number of open rules whenever another one is entered. -/
theorem apply_keeps_places {grammar : Grammar R} (rules : grammar.Standard) {parser : Parser R α}
    (standard : parser.Standard) (state : State α) :
    ((parser.apply grammar state).text = state.text ∧
        (parser.apply grammar state).depth = state.depth) ∧
      (Text.IsPlace state.text state.position →
        Text.IsPlace state.text (parser.apply grammar state).position ∧
          state.position ≤ (parser.apply grammar state).position ∧
          (parser.apply grammar state).position ≤ state.text.utf8ByteSize) ∧
      (¬Text.IsPlace state.text state.position →
        (parser.apply grammar state).position = state.position) ∧
      (state.text.utf8ByteSize < UInt64.size → state.position < UInt64.size →
        ∀ first event second, (parser.trace grammar state).events = first ++ event :: second →
          (∀ position ∈ event.position?, position < UInt64.size) ∧
            (event.isEntry = true →
              first.foldl Event.depthAfter state.depth + 1 < UInt64.size)) := by
  have orderly := traceLevels_orderly rules allLevels [] standard state
  obtain ⟨count, moved⟩ :
      ∃ count, (parser.apply grammar state).cursor = state.cursor.advance count := orderly.forward.1
  refine ⟨⟨orderly.forward.text_eq, orderly.forward.2⟩, ?_, ?_, ?_⟩
  · intro place
    have place := Text.Cursor.isPlace_advance place count
    rw [State.position, moved]
    exact ⟨place, by simp, place.le_utf8ByteSize⟩
  · intro none
    rw [State.position, moved]
    exact Text.Cursor.position_advance_of_not_isPlace none count
  · intro fits start first event second split
    have events := orderly.events
    change OrderlyFrom _ _ (parser.trace grammar state).events at events
    rw [split, orderlyFrom_append] at events
    obtain ⟨reached, room⟩ := events.2.1
    refine ⟨?_, room⟩
    intro position told
    obtain ⟨count, rfl⟩ := reached position told
    exact Text.Cursor.position_advance_lt fits start count

end Parser

namespace Brackets

/-- A place in a text whose first character takes two bytes. -/
abbrev afterAccent (position : Nat) : State String := ⟨.place "é[a]" position, .empty, none, 0⟩

/-- A list is read from the place where it starts; inside the character before it nothing is. -/
theorem nested_keeps_places :
    Text.IsPlace "é[a]" ((nested 0 .value).apply grammar (afterAccent 2)).position ∧
      ((nested 0 .value).apply grammar (afterAccent 1)).position = 1 ∧
      ∀ first event second,
        ((nested 0 .value).trace grammar (afterAccent 2)).events = first ++ event :: second →
        (∀ position ∈ event.position?, position < UInt64.size) ∧
          (event.isEntry = true → first.foldl Event.depthAfter 0 + 1 < UInt64.size) := by
  have standard := nestedWithin_standard defaultLimit 0 Rule.value
  have keeps := Parser.apply_keeps_places (grammarWithin_standard defaultLimit) standard
  have place : Text.IsPlace "é[a]" 2 := by decide
  have none : ¬Text.IsPlace "é[a]" 1 := by decide
  obtain ⟨_, stays, _, fits⟩ := keeps (afterAccent 2)
  exact ⟨(stays place).1, (keeps (afterAccent 1)).2.2.1 none, fits (by decide) (by decide)⟩

end Brackets

end Descent
