import Descent.Proofs.Separation

set_option autoImplicit false

/-!
Laws of choices.

What a choice comes to is what its first alternative comes to, or what the others come to if that one
is refused (`State.otherwise`). This is associative, and a refused alternative leaves no trace, so
that a choice among the alternatives is the same as the alternatives themselves, and what comes
twice counts once. A beginning that all alternatives share is read again for each of them, always
from the same state, and so it may as well be read once before the choice.
-/

namespace Descent

namespace State

variable {α : Type}

/-- A state, or another one if it was refused. -/
def otherwise (state other : State α) : State α :=
  if state.failed && !state.failedFatally then other else state

theorem otherwise_of_rejected {state : State α} (rejected : state.Rejected) (other : State α) :
    state.otherwise other = other :=
  if_pos (by simp [rejected.1, rejected.2])

theorem otherwise_of_kept {state : State α} (kept : ¬state.Rejected) (other : State α) :
    state.otherwise other = state := by
  refine if_neg fun refused => kept ?_
  simpa [Rejected] using refused

theorem otherwise_self (state : State α) : state.otherwise state = state := by
  unfold otherwise
  split <;> rfl

theorem rejected_otherwise_iff {state other : State α} :
    (state.otherwise other).Rejected ↔ state.Rejected ∧ other.Rejected := by
  by_cases rejected : state.Rejected
  · simp [otherwise_of_rejected rejected, rejected]
  · simp [otherwise_of_kept rejected, rejected]

theorem otherwise_assoc (first second third : State α) :
    (first.otherwise second).otherwise third = first.otherwise (second.otherwise third) := by
  by_cases rejected : first.Rejected
  · rw [otherwise_of_rejected rejected, otherwise_of_rejected rejected]
  · rw [otherwise_of_kept rejected, otherwise_of_kept rejected, otherwise_of_kept rejected]

/-- The results of two parts as a list, of which the first gave the item. -/
def paired (item : Output α) (state : State α) : State α :=
  state.followedBy fun last => last.withResult (.list [item, last.result])

theorem rejected_paired_iff {item : Output α} {state : State α} :
    (state.paired item).Rejected ↔ state.Rejected := by
  unfold paired
  cases failed : state.failed with
  | true => rw [followedBy_of_failed failed]; rfl
  | false => rw [followedBy_of_running failed]; rfl

theorem paired_otherwise (item : Output α) (state other : State α) :
    (state.otherwise other).paired item = (state.paired item).otherwise (other.paired item) := by
  by_cases rejected : state.Rejected
  · rw [otherwise_of_rejected rejected, otherwise_of_rejected (rejected_paired_iff.mpr rejected)]
  · rw [otherwise_of_kept rejected, otherwise_of_kept (mt rejected_paired_iff.mp rejected)]

end State

namespace Parser

variable {R : Type → Type} {α : Type}

/-- What comes of several parsers that are tried at the same place, up to the first that is not
refused. -/
def applyFirst (grammar : Grammar R) (state : State α) : List (Parser R α) → State α
  | [] => state.withError (.choiceExhausted state.position)
  | parser :: rest => (parser.apply grammar state).otherwise (applyFirst grammar state rest)

section Choice

variable {grammar : Grammar R} {state : State α}

theorem apply_choice (grammar : Grammar R) (alternatives : List (Parser R α))
    (running : state.failed = false) :
    (Parser.choice (.ofList alternatives)).apply grammar state =
      applyFirst grammar state alternatives := by
  have applied : (Parser.choice (.ofList alternatives)).apply grammar state =
      (chooseWith (enterBody grammar (allLevels - 1)) [] (.ofList alternatives) state).value :=
    value_unlessFailed_of_running running _
  rw [applied]
  clear applied
  induction alternatives with
  | nil => rfl
  | cons parser rest ih =>
    rw [Parsers.ofList, applyFirst]
    by_cases rejected : (parser.apply grammar state).Rejected
    · rw [State.otherwise_of_rejected rejected, ← ih]
      exact choose_skips rejected
    · rw [State.otherwise_of_kept rejected]
      exact choose_takes rejected

theorem applyFirst_append (first second : List (Parser R α)) :
    applyFirst grammar state (first ++ second) =
      (applyFirst grammar state first).otherwise (applyFirst grammar state second) := by
  induction first with
  | nil => exact (State.otherwise_of_rejected (state.withError_rejected rfl) _).symm
  | cons parser rest ih => rw [List.cons_append, applyFirst, applyFirst, ih, State.otherwise_assoc]

/-- All of them are refused, or else not all of them together. -/
theorem rejected_of_applyFirst {alternatives : List (Parser R α)}
    (rejected : (applyFirst grammar state alternatives).Rejected) {parser : Parser R α}
    (member : parser ∈ alternatives) : (parser.apply grammar state).Rejected := by
  induction alternatives with
  | nil => simp at member
  | cons head rest ih =>
    obtain ⟨first, others⟩ := State.rejected_otherwise_iff.mp rejected
    rcases List.mem_cons.mp member with rfl | later
    · exact first
    · exact ih others later

end Choice

/-- A choice among the alternatives of a choice may be written out, and an alternative that has come
before may be left out. -/
theorem choice_flattens (grammar : Grammar R) (before inner after : List (Parser R α))
    (state : State α) :
    (Parser.choice (.ofList (before ++ .choice (.ofList inner) :: after))).apply grammar state =
        (Parser.choice (.ofList (before ++ inner ++ after))).apply grammar state ∧
      ∀ parser ∈ before,
        (Parser.choice (.ofList (before ++ parser :: after))).apply grammar state =
          (Parser.choice (.ofList (before ++ after))).apply grammar state := by
  cases failed : state.failed with
  | true =>
    have passed (alternatives : List (Parser R α)) :
        (Parser.choice (.ofList alternatives)).apply grammar state = state.cleared :=
      value_unlessFailed_of_failed failed _
    simp only [passed, implies_true, and_self]
  | false =>
    simp only [apply_choice grammar _ failed, applyFirst_append, applyFirst]
    constructor
    · rw [State.otherwise_assoc]
    · intro parser member
      by_cases rejected : (applyFirst grammar state before).Rejected
      · rw [State.otherwise_of_rejected rejected, State.otherwise_of_rejected rejected,
          State.otherwise_of_rejected (rejected_of_applyFirst rejected member)]
      · rw [State.otherwise_of_kept rejected, State.otherwise_of_kept rejected]

end Parser

namespace Brackets

/-- A choice within a choice is left as if its alternatives stood in its place, and the letters are
not tried to any effect a second time. -/
theorem nested_choice_flattened :
    (Parser.choice (.ofList [.letters, .choice (.ofList [.digits, .literal "!"])])).apply grammar
        (.start "!") = ⟨.place "!" 1, .value "!", none, 0⟩ ∧
      (Parser.choice (.ofList [.letters, .digits, .letters, .literal "!"])).apply grammar
        (.start "!") = ⟨.place "!" 1, .value "!", none, 0⟩ := by
  have nested := Parser.choice_flattens grammar [.letters] [.digits, .literal "!"] [] (.start "!")
  have again := Parser.choice_flattens grammar [.letters, .digits] [] [.literal "!"] (.start "!")
  have member : Parser.letters ∈ ([.letters, .digits] : List (Parser Rule String)) := by simp
  constructor
  · refine nested.1.trans ?_
    decide +kernel
  · refine (again.2 _ member).trans ?_
    decide +kernel

end Brackets

namespace Parser

variable {R : Type → Type} {α : Type}

/-! ## Common beginnings -/

section Factoring

variable {grammar : Grammar R} {first second : Parser R α} {alternatives : List (Parser R α)}
  {state : State α}

/-- A choice among sequences that begin alike. -/
def spread (first : Parser R α) (alternatives : List (Parser R α)) : Parser R α :=
  .choice (.ofList (alternatives.map fun second => .sequence (.ofList [first, second])))

/-- What the sequences have in common, and a choice among what follows. -/
def factored (first : Parser R α) (alternatives : List (Parser R α)) : Parser R α :=
  .sequence (.ofList [first, .choice (.ofList alternatives)])

theorem applyAll_pair (grammar : Grammar R) (first second : Parser R α) (state : State α) :
    applyAll grammar [first, second] state =
      (first.apply grammar state).followedBy fun after =>
        (second.apply grammar after.cleared).paired after.result := by
  simp only [applyAll, State.prepend_followedBy]
  refine State.followedBy_congr fun _ => State.followedBy_congr fun found => ?_
  simp [State.prepend, found]

theorem apply_pair (grammar : Grammar R) (first second : Parser R α)
    (running : state.failed = false) :
    (Parser.sequence (.ofList [first, second])).apply grammar state =
      (first.apply grammar state.cleared).followedBy fun after =>
        (second.apply grammar after.cleared).paired after.result := by
  rw [apply_sequence grammar _ state running, applyAll_pair]

theorem apply_factored (running : state.failed = false) :
    (factored first alternatives).apply grammar state =
      (first.apply grammar state.cleared).followedBy fun after =>
        (applyFirst grammar after.cleared alternatives).paired after.result := by
  rw [factored, apply_pair grammar _ _ running]
  exact State.followedBy_congr fun found => congrArg _ (apply_choice grammar alternatives found)

/-- Several alternatives that come to the same count as one. -/
theorem applyFirst_of_alike {after : State α} (nonempty : alternatives ≠ [])
    (alike : ∀ parser ∈ alternatives, parser.apply grammar state = after) :
    applyFirst grammar state alternatives =
      after.otherwise (state.withError (.choiceExhausted state.position)) := by
  induction alternatives with
  | nil => contradiction
  | cons parser rest ih =>
    obtain ⟨this, others⟩ := List.forall_mem_cons.mp alike
    rw [applyFirst, this]
    cases rest with
    | nil => rfl
    | cons next rest => rw [ih (by simp) others, ← State.otherwise_assoc, State.otherwise_self]

/-- After a beginning that all share, the first that goes on is the first that is not refused. -/
theorem applyFirst_pairs (running : state.failed = false)
    (found : (first.apply grammar state.cleared).failed = false) :
    applyFirst grammar state
        (alternatives.map fun second => .sequence (.ofList [first, second])) =
      ((applyFirst grammar (first.apply grammar state.cleared).cleared alternatives).paired
          (first.apply grammar state.cleared).result).otherwise
        (state.withError (.choiceExhausted state.position)) := by
  induction alternatives with
  | nil =>
    refine (State.otherwise_of_rejected ?_ _).symm
    exact State.rejected_paired_iff.mpr (State.withError_rejected _ rfl)
  | cons second rest ih =>
    rw [List.map_cons, applyFirst, apply_pair grammar first second running,
      State.followedBy_of_running found, ih, applyFirst, State.paired_otherwise,
      State.otherwise_assoc]

/-- The sequences that begin alike come to what the factored parser comes to, unless that is
refused. -/
theorem apply_spread (nonempty : alternatives ≠ []) (running : state.failed = false) :
    (spread first alternatives).apply grammar state =
      ((factored first alternatives).apply grammar state).otherwise
        (state.withError (.choiceExhausted state.position)) := by
  rw [spread, apply_choice grammar _ running, apply_factored running]
  cases found : (first.apply grammar state.cleared).failed with
  | true =>
    rw [State.followedBy_of_failed found]
    refine applyFirst_of_alike (by simpa using nonempty) fun parser member => ?_
    obtain ⟨second, _, rfl⟩ := List.mem_map.mp member
    rw [apply_pair grammar first second running, State.followedBy_of_failed found]
  | false => rw [State.followedBy_of_running found, applyFirst_pairs running found]

theorem factored_standard (firstStandard : first.Standard)
    (standard : ∀ second ∈ alternatives, second.Standard) :
    (factored first alternatives).Standard := by
  refine .sequence ?_
  simpa using ⟨firstStandard, .choice standard⟩

/-- A beginning that all alternatives share may be read before the choice. That changes nothing where
one of them succeeds, nor where the parse must stop; and where all are refused it changes the place
of the failure alone, which is then that of the choice. -/
theorem common_beginning_factors (rules : grammar.Standard) (firstStandard : first.Standard)
    (standard : ∀ second ∈ alternatives, second.Standard) (nonempty : alternatives ≠ [])
    (running : state.failed = false) :
    let before := (spread first alternatives).apply grammar state
    let after := (factored first alternatives).apply grammar state
    (before.failed = false ↔ after.failed = false) ∧
      (before.failedFatally = true ↔ after.failedFatally = true) ∧
      (before.Rejected ↔ after.Rejected) ∧
      (¬before.Rejected → before = after) ∧
      (before.Rejected → before = state.withError (.choiceExhausted state.position) ∧
        before.position = state.position ∧ state.position ≤ after.position) := by
  intro before after
  have spreads : before = after.otherwise (state.withError (.choiceExhausted state.position)) :=
    apply_spread nonempty running
  by_cases rejected : after.Rejected
  · have same : before = state.withError (.choiceExhausted state.position) :=
      spreads.trans (State.otherwise_of_rejected rejected _)
    have refused : before.Rejected := same ▸ State.withError_rejected _ rfl
    have further : state.position ≤ after.position :=
      (apply_advances rules (factored_standard firstStandard standard) state).position_le
    refine ⟨?_, ?_, ?_, fun kept => absurd refused kept, fun _ => ⟨same, ?_, further⟩⟩
    · simp [refused.1, rejected.1]
    · simp [refused.2, rejected.2]
    · exact iff_of_true refused rejected
    · rw [same]
      rfl
  · have same : before = after := spreads.trans (State.otherwise_of_kept rejected _)
    refine ⟨by rw [same], by rw [same], by rw [same], fun _ => same, fun refused => ?_⟩
    exact absurd (same ▸ refused) rejected

end Factoring

end Parser

namespace Brackets

/-- A word before a mark is read once where it is factored out. After another mark the word is given
up without that, and with it the failure stands behind the word. -/
theorem word_factored :
    (Parser.spread .letters [.digits, .literal "!"]).apply grammar (.start "abc!") =
        ⟨.place "abc!" 4, .list [.value "abc", .value "!"], none, 0⟩ ∧
      (Parser.spread .letters [.digits, .literal "!"]).apply grammar (.start "abc?") =
        ⟨.place "abc?" 0, .empty, some (.choiceExhausted 0), 0⟩ ∧
      ((Parser.factored .letters [.digits, .literal "!"]).apply grammar (.start "abc?")).error =
        some (.choiceExhausted 3) := by
  have rules : grammar.Standard := grammarWithin_standard defaultLimit
  have letters : (Parser.letters : Parser Rule String).Standard := .run .letters
  have marks : ∀ mark ∈ ([.digits, .literal "!"] : List (Parser Rule String)), mark.Standard := by
    simpa using ⟨.run .digits, .literal "!"⟩
  have running (text : String) : (State.start text : State String).failed = false := rfl
  have factors (text : String) :=
    Parser.common_beginning_factors rules letters marks (by simp) (running text)
  obtain ⟨_, _, _, same, _⟩ := factors "abc!"
  obtain ⟨_, _, refused, _, fails⟩ := factors "abc?"
  refine ⟨?_, ?_, by decide +kernel⟩
  · rw [same (fun refused => absurd refused.1 (by decide +kernel))]
    decide +kernel
  · refine (fails (refused.mpr ⟨?_, ?_⟩)).1
    · decide +kernel
    · decide +kernel

end Brackets

end Descent
