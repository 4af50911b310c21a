import Descent.Proofs.Failing
import Descent.Proofs.Incoming
import Mathlib.Logic.Function.Basic

set_option autoImplicit false

/-!
Changing leaves, before or after.

A parser without functions of its own hands the leaves of its matches on and never looks at them:
loops and choices ask whether a list has items, and not which. So it makes no difference whether a
function changes the leaf of each match or the leaves of the result.
-/

namespace Descent

namespace Output

variable {α β : Type}

theorem mapLeaves_list (f : α → β) (items : List (Output α)) :
    (list items).mapLeaves f = .list (items.map (mapLeaves f)) :=
  congrArg list (mapLeavesOfItems_eq_map f items)

@[simp] theorem isEmpty_mapLeaves (f : α → β) (output : Output α) :
    (output.mapLeaves f).isEmpty = output.isEmpty := by
  cases output with
  | value leaf => rfl
  | list items => cases items <;> rfl

end Output

namespace State

variable {α β : Type}

/-- The state with a function applied to the leaves of its result. -/
def mapLeaves (f : α → β) (state : State α) : State β :=
  state.withResult (state.result.mapLeaves f)

theorem mapLeaves_withItem (f : α → α) (state : State α) (item : Output α) :
    (state.withResult (.list [item])).mapLeaves f =
      (state.mapLeaves f).withResult (.list [item.mapLeaves f]) :=
  congrArg state.withResult (Output.mapLeaves_list f [item])

theorem mapLeaves_prepend (f : α → α) (item : Output α) (state : State α) :
    (state.prepend item).mapLeaves f = (state.mapLeaves f).prepend (item.mapLeaves f) := by
  obtain ⟨cursor, result, error, depth⟩ := state
  cases error with
  | some failure => rfl
  | none =>
    cases result with
    | value leaf => rfl
    | list items => rfl

theorem mapLeaves_requireItems (f : α → α) (failure : Nat → Failure) (state : State α) :
    (state.requireItems failure).mapLeaves f = (state.mapLeaves f).requireItems failure := by
  have same : (!(state.mapLeaves f).failed && (state.mapLeaves f).result.isEmpty) =
      (!state.failed && state.result.isEmpty) :=
    congrArg (!state.failed && ·) (Output.isEmpty_mapLeaves f state.result)
  unfold State.requireItems
  rw [same]
  split
  · rfl
  · rfl

theorem Settled.mapLeaves_eq {state : State α} (settled : state.Settled)
    (failed : state.failed = true) (f : α → β) : state.mapLeaves f = state.cleared := by
  rw [mapLeaves, settled failed]
  rfl

end State

/-- The second run comes to what the first comes to, with changed leaves. -/
def Traced.Relabels {α : Type} (f : α → α) (work work' : Traced (State α)) : Prop :=
  work'.value = work.value.mapLeaves f

namespace Traced.Relabels

variable {α β : Type} {f : α → α} {g : β → β}

theorem value_eq {work work' : Traced (State α)} (relabels : work.Relabels f work') :
    work'.value = work.value.mapLeaves f := relabels

theorem bind {first first' : Traced (State α)} {next next' : State α → Traced (State β)}
    (relabels : first.Relabels f first')
    (goesOn : (next first.value).Relabels g (next' (first.value.mapLeaves f))) :
    (first >>= next).Relabels g (first' >>= next') := by
  rw [Relabels, value_bind, value_bind, relabels.value_eq]
  exact goesOn

theorem ite {c : Prop} [Decidable c] {yes yes' no no' : Traced (State α)}
    (whenYes : yes.Relabels f yes') (whenNo : no.Relabels f no') :
    (if c then yes else no).Relabels f (if c then yes' else no') := by
  by_cases holds : c
  · rw [if_pos holds, if_pos holds]
    exact whenYes
  · rw [if_neg holds, if_neg holds]
    exact whenNo

theorem prepend {work work' : Traced (State α)} (relabels : work.Relabels f work')
    (item : Output α) :
    (State.prepend item <$> work).Relabels f (State.prepend (item.mapLeaves f) <$> work') := by
  rw [Relabels, value_map, value_map, relabels.value_eq, State.mapLeaves_prepend]

theorem requireItems {work work' : Traced (State α)} (relabels : work.Relabels f work')
    (failure : Nat → Failure) :
    (State.requireItems failure <$> work).Relabels f (State.requireItems failure <$> work') := by
  rw [Relabels, value_map, value_map, relabels.value_eq, State.mapLeaves_requireItems]

theorem withMessage {work work' : Traced (State α)} (relabels : work.Relabels f work')
    (message : Failure → Nat → String) :
    (Parser.withMessage message work).Relabels f (Parser.withMessage message work') := by
  refine .bind relabels ?_
  obtain ⟨cursor, result, error, depth⟩ := work.value
  cases error with
  | none => rfl
  | some cause => rfl

end Traced.Relabels

namespace Parser

/-- Built from the matchers and the combinators, without any function of the grammar's own that is
given a result. -/
inductive Plain {R : Type → Type} : {α : Type} → Parser R α → Prop where
  | literal (expected : String) : Plain (.literal expected)
  | pattern (expected : Pattern) : Plain (.pattern expected)
  | run (kind : CharRun) : Plain (.run kind)
  | sequence {α : Type} {parsers : List (Parser R α)} :
      (∀ parser ∈ parsers, Plain parser) → Plain (.sequence (.ofList parsers))
  | choice {α : Type} {alternatives : List (Parser R α)} :
      (∀ parser ∈ alternatives, Plain parser) → Plain (.choice (.ofList alternatives))
  | many {α : Type} {body : Parser R α} : Plain body → Plain (.many body)
  | many1 {α : Type} {body : Parser R α} : Plain body → Plain (.many1 body)
  | sepBy {σ α : Type} {separator : Parser R σ} {value : Parser R α} :
      Plain separator → Plain value → Plain (.sepBy separator value)
  | sepBy1 {σ α : Type} {separator : Parser R σ} {value : Parser R α} :
      Plain separator → Plain value → Plain (.sepBy1 separator value)
  | between {l r α : Type} {left : Parser R l} {right : Parser R r} {content : Parser R α} :
      Plain left → Plain right → Plain content → Plain (.between left right content)
  | lazy {α : Type} (cell : Nat) (limit : UInt64) (rule : R α) : Plain (.lazy cell limit rule)
  | named {α : Type} (name : String) {parser : Parser R α} :
      Plain parser → Plain (.named name parser)
  | errorMap {α : Type} {parser : Parser R α} (message : Failure → Nat → String) :
      Plain parser → Plain (.errorMap parser message)

mutual

/-- The same parser with a function applied to the leaf of every match, at any depth. -/
def mapMatches {R : Type → Type} (f : String → String) {α : Type} : Parser R α → Parser R α
  | .literal expected => .map (.literal expected) (Output.mapLeaves f)
  | .pattern expected => .map (.pattern expected) (Output.mapLeaves f)
  | .run kind => .map (.run kind) (Output.mapLeaves f)
  | .sequence parsers => .sequence (mapMatchesAll f parsers)
  | .choice alternatives => .choice (mapMatchesAll f alternatives)
  | .many body => .many (body.mapMatches f)
  | .many1 body => .many1 (body.mapMatches f)
  | .sepBy separator value => .sepBy (separator.mapMatches f) (value.mapMatches f)
  | .sepBy1 separator value => .sepBy1 (separator.mapMatches f) (value.mapMatches f)
  | .between left right content =>
    .between (left.mapMatches f) (right.mapMatches f) (content.mapMatches f)
  | .lazy cell limit rule => .lazy cell limit rule
  | .named name parser => .named name (parser.mapMatches f)
  | .map parser change => .map (parser.mapMatches f) change
  | .chain parser next => .chain (parser.mapMatches f) fun output => (next output).mapMatches f
  | .errorMap parser message => .errorMap (parser.mapMatches f) message
  | .custom name steps => .custom name steps

/-- `mapMatches` on each of several parsers. -/
def mapMatchesAll {R : Type → Type} (f : String → String) {α : Type} : Parsers R α → Parsers R α
  | .nil => .nil
  | .cons parser rest => .cons (parser.mapMatches f) (mapMatchesAll f rest)

end

end Parser

/-- All rules of the grammar are plain parsers. -/
def Grammar.Plain {R : Type → Type} (grammar : Grammar R) : Prop :=
  ∀ (α : Type) (rule : R α), (grammar α rule).Plain

/-- The grammar with a function applied to the leaf of every match in its rules. -/
def Grammar.mapMatches {R : Type → Type} (f : String → String) (grammar : Grammar R) : Grammar R :=
  fun α rule => (grammar α rule).mapMatches f

namespace Parser

variable {R : Type → Type} {α σ : Type} {f : α → α} {g : σ → σ}

theorem Plain.standard {parser : Parser R α} (plain : parser.Plain) : parser.Standard := by
  induction plain with
  | literal expected => exact .literal expected
  | pattern expected => exact .pattern expected
  | run kind => exact .run kind
  | sequence _ ih => exact .sequence ih
  | choice _ ih => exact .choice ih
  | many _ ih => exact .many ih
  | many1 _ ih => exact .many1 ih
  | sepBy _ _ separator value => exact .sepBy separator value
  | sepBy1 _ _ separator value => exact .sepBy1 separator value
  | between _ _ _ left right content => exact .between left right content
  | lazy cell limit rule => exact .lazy cell limit rule
  | named name _ ih => exact .named name ih
  | errorMap message _ ih => exact .errorMap message ih

theorem repeatFrom_relabels {step step' : State α → Traced (State α)}
    (relabels : ∀ state, (step state).Relabels f (step' state)) (bound : Nat) (state : State α) :
    (repeatFrom step bound state).Relabels f (repeatFrom step' bound state) := by
  induction bound generalizing state with
  | zero => rfl
  | succ bound ih =>
    refine .bind (relabels state) (.ite rfl (.ite rfl (.ite ?_ ?_)))
    · exact (State.mapLeaves_withItem f _ _).symm
    · exact (ih _).prepend _

theorem separateFrom_relabels {separator separator' : State σ → Traced (State σ)}
    {value value' : State α → Traced (State α)}
    (separates : ∀ state, (separator state).Relabels g (separator' state))
    (relabels : ∀ state, (value state).Relabels f (value' state)) (bound : Nat) (state : State α) :
    (separateFrom separator value bound state).Relabels f
      (separateFrom separator' value' bound state) := by
  induction bound generalizing state with
  | zero => rfl
  | succ bound ih =>
    refine .bind (relabels state) (.ite rfl (.ite rfl ?_))
    refine .bind (separates _) (.ite rfl (.ite ?_ (.ite ?_ ?_)))
    · exact (State.mapLeaves_withItem f _ _).symm
    · exact (State.mapLeaves_withItem f (State.cleared _) _).symm
    · exact (ih _).prepend _

variable {enter enter' : Enter R} {scope : Address}

theorem sequenceWith_relabels {parsers : List (Parser R α)} {h : String → String}
    (relabels : ∀ parser ∈ parsers, ∀ state : State α, (traceWith enter scope parser state).Relabels f
      (traceWith enter' scope (parser.mapMatches h) state)) (state : State α) :
    (sequenceWith enter scope (.ofList parsers) state).Relabels f
      (sequenceWith enter' scope (mapMatchesAll h (.ofList parsers)) state) := by
  induction parsers generalizing state with
  | nil => rfl
  | cons parser rest ih =>
    have first := relabels parser (by simp) state
    have others := ih fun parser member => relabels parser (by simp [member])
    exact .bind first (.ite rfl ((others _).prepend _))

theorem chooseWith_relabels {alternatives : List (Parser R α)} {h : String → String}
    (relabels : ∀ parser ∈ alternatives, ∀ state : State α,
      (traceWith enter scope parser state).Relabels f
        (traceWith enter' scope (parser.mapMatches h) state)) (state : State α) :
    (chooseWith enter scope (.ofList alternatives) state).Relabels f
      (chooseWith enter' scope (mapMatchesAll h (.ofList alternatives)) state) := by
  induction alternatives with
  | nil => rfl
  | cons parser rest ih =>
    have first := relabels parser (by simp) state
    have others := ih fun parser member => relabels parser (by simp [member])
    exact .bind first (.ite rfl others)

theorem relabels_unlessFailed {state : State α} {work work' : Traced (State α)}
    (relabels : work.Relabels f work') :
    (application state (unlessFailed state work)).Relabels f
      (application state (unlessFailed state work')) :=
  .ite rfl relabels

/-- A failed part has no leaves, so that they may be changed although the part has failed. -/
theorem map_relabels {parser : Parser R α} (standard : parser.Standard) {state : State α}
    (settled : (traceWith enter scope parser state).value.Settled) :
    (traceWith enter scope parser state).Relabels f
      (traceWith enter scope (.map parser (Output.mapLeaves f)) state) := by
  change (do
    let after ← traceWith enter scope parser state.cleared
    if after.failed then return after.cleared
    else
      Traced.emit .called
      return after.mapLeaves f : Traced (State α)).value = _
  rw [traceWith_cleared standard, Traced.value_bind]
  by_cases failed : (traceWith enter scope parser state).value.failed = true
  · rw [if_pos failed]
    exact (settled.mapLeaves_eq failed f).symm
  · rw [if_neg failed]
    rfl

/-- There is one function for the leaves of each type, so that the parts of a parser may have leaves
of other types. Only for texts does it matter which. -/
theorem traceWith_relabels (change : (α : Type) → α → α)
    (enters : ∀ {α : Type} (address : Address) (rule : R α) (state : State α),
      (enter address rule state).Relabels (change α) (enter' address rule state))
    {parser : Parser R α} (plain : parser.Plain) (state : State α) :
    (traceWith enter scope parser state).Relabels (change α)
      (traceWith enter' scope (parser.mapMatches (change String)) state) := by
  induction plain with
  | literal expected =>
    exact map_relabels (.literal expected) (settled_unlessFailed (matchLiteral_settled _))
  | pattern expected =>
    exact map_relabels (.pattern expected) (settled_unlessFailed (matchPattern_settled _ _))
  | run kind => exact map_relabels (.run kind) (settled_unlessFailed (matchPattern_settled _ _))
  | sequence _ ih => exact relabels_unlessFailed (sequenceWith_relabels ih _)
  | choice _ ih => exact relabels_unlessFailed (chooseWith_relabels ih _)
  | many _ ih => exact relabels_unlessFailed (repeatFrom_relabels ih _ _)
  | many1 _ ih =>
    exact relabels_unlessFailed ((repeatFrom_relabels ih _ _).requireItems _)
  | sepBy _ _ separator value =>
    exact relabels_unlessFailed (separateFrom_relabels separator value _ _)
  | sepBy1 _ _ separator value =>
    exact relabels_unlessFailed ((separateFrom_relabels separator value _ _).requireItems _)
  | between _ _ _ left right content =>
    refine relabels_unlessFailed (.bind (left _) (.ite rfl ?_))
    exact .bind (content _) (.ite rfl (.bind (right _) (.ite rfl rfl)))
  | lazy cell limit rule =>
    exact relabels_unlessFailed (.ite rfl (.bind (enters (cell :: scope) rule _) rfl))
  | named _ _ ih => exact ih state
  | errorMap message _ ih => exact (ih state).withMessage message

theorem traceLevels_relabels (change : (α : Type) → α → α) {grammar : Grammar R}
    (rules : grammar.Plain) (levels : Nat) (scope : Address) {parser : Parser R α}
    (plain : parser.Plain) (state : State α) :
    (traceLevels grammar levels scope parser state).Relabels (change α)
      (traceLevels (grammar.mapMatches (change String)) levels scope
        (parser.mapMatches (change String)) state) := by
  induction levels generalizing α scope with
  | zero => rfl
  | succ levels ih =>
    refine traceWith_relabels change ?_ plain state
    intro α address rule state
    exact ih address (rules α rule) state

open Classical in
/-- Changing the leaf of every match is changing the leaves of the result. -/
theorem apply_mapMatches {grammar : Grammar R} (rules : grammar.Plain) {parser : Parser R String}
    (plain : parser.Plain) (f : String → String) (state : State String) :
    (parser.mapMatches f).apply (grammar.mapMatches f) state =
      (Parser.map parser (Output.mapLeaves f)).apply grammar state := by
  obtain ⟨change, rfl⟩ : ∃ change : (α : Type) → α → α, change String = f :=
    ⟨Function.update (fun _ => id) String f, Function.update_self ..⟩
  have settled : (parser.trace grammar state).value.Settled :=
    traceLevels_settled (fun α rule => (rules α rule).standard) allLevels [] plain.standard state
  have after : ((Parser.map parser (Output.mapLeaves (change String))).apply grammar state) =
      (parser.apply grammar state).mapLeaves (change String) := map_relabels plain.standard settled
  rw [after]
  exact traceLevels_relabels change rules allLevels [] plain state

end Parser

namespace Brackets

variable {R : Type → Type}

theorem nestedWithin_plain (limit : UInt64) (cell : Nat) (value : R String) :
    (nestedWithin limit cell value).Plain :=
  .named _ (.between (.literal _) (.literal _) (.sepBy (.literal _) (.named _ (.lazy ..))))

theorem grammarWithin_plain (limit : UInt64) : (grammarWithin limit).Plain
  | _, .value => by
    refine .choice ?_
    simpa using ⟨nestedWithin_plain .., .run .letters, .run .digits⟩

/-- Words that are doubled as they are read, and the brackets and commas with them. -/
theorem nested_doubled :
    ((nested 0 Rule.value).mapMatches fun word => word ++ word).apply
        (grammar.mapMatches fun word => word ++ word) (.start "[ab,[1],]") =
      ⟨.place "[ab,[1],]" 9, .list [.value "abab", .list [.value "11"]], none, 0⟩ := by
  have rules : grammar.Plain := grammarWithin_plain defaultLimit
  have plain : (nested 0 Rule.value).Plain := nestedWithin_plain ..
  rw [Parser.apply_mapMatches rules plain]
  decide +kernel

end Brackets

end Descent
