import Descent.Proofs.Correspondence

set_option autoImplicit false

/-!
Names and messages change nothing but names and messages.

`Parser.bare` takes all of them off a parser. Messages are laid over failures, and failures decide
where a choice or a loop goes on; but only the root cause is ever asked whether it is fatal, and no
message changes it.
-/

namespace Descent

namespace Parser

mutual

/-- The same parser without names and without messages of its own, at any depth. -/
def bare {R : Type → Type} {α : Type} : Parser R α → Parser R α
  | .literal expected => .literal expected
  | .pattern expected => .pattern expected
  | .run kind => .run kind
  | .sequence parsers => .sequence (bareAll parsers)
  | .choice alternatives => .choice (bareAll alternatives)
  | .many body => .many body.bare
  | .many1 body => .many1 body.bare
  | .sepBy separator value => .sepBy separator.bare value.bare
  | .sepBy1 separator value => .sepBy1 separator.bare value.bare
  | .between left right content => .between left.bare right.bare content.bare
  | .lazy cell limit rule => .lazy cell limit rule
  | .named _ parser => parser.bare
  | .map parser f => .map parser.bare f
  | .chain parser next => .chain parser.bare fun output => (next output).bare
  | .errorMap parser _ => parser.bare
  | .custom name steps => .custom name steps

/-- Each of several parsers without names and messages. -/
def bareAll {R : Type → Type} {α : Type} : Parsers R α → Parsers R α
  | .nil => .nil
  | .cons parser rest => .cons parser.bare (bareAll rest)

end

variable {R : Type → Type} {α : Type}

theorem bareAll_ofList (parsers : List (Parser R α)) :
    bareAll (.ofList parsers) = .ofList (parsers.map bare) := by
  induction parsers with
  | nil => rfl
  | cons parser rest ih => exact congrArg (Parsers.cons parser.bare) ih

end Parser

/-- The grammar without names and messages in its rules. -/
def Grammar.bare {R : Type → Type} (grammar : Grammar R) : Grammar R :=
  fun α rule => (grammar α rule).bare

/-- The failures have the same root cause, at the same place. -/
def Correspondence.rootCause : Correspondence where
  offset := 0
  Like first second := first.rootCause = second.rootCause
  raised failure := by rw [Failure.shift_zero]
  fatal like := congrArg Failure.isNesting like

namespace Parser

variable {R : Type → Type} {α : Type}

theorem Standard.resembles_bare {parser : Parser R α} (standard : parser.Standard) :
    Resembles .rootCause parser parser.bare := by
  induction standard with
  | literal expected => exact .literal expected
  | pattern expected => exact .pattern expected
  | run kind => exact .run kind
  | sequence _ ih =>
    rw [bare, bareAll_ofList]
    exact .sequence_map bare ih
  | choice _ ih =>
    rw [bare, bareAll_ofList]
    exact .choice_map bare ih
  | many _ ih => exact .many ih
  | many1 _ ih => exact .many1 ih
  | sepBy _ _ separator value => exact .sepBy separator value
  | sepBy1 _ _ separator value => exact .sepBy1 separator value
  | between _ _ _ left right content => exact .between left right content
  | lazy cell limit rule => exact .lazy cell limit rule
  | named name _ ih => exact .unnamed name ih
  | map f _ ih => exact .map f ih
  | chain _ _ first second => exact .chain first second
  | errorMap message _ ih => exact .unmapped (fun _ like => like) ih

/-- Without its names and messages a standard parser accepts the same texts with the same results,
and fails at the same places for the same root causes. -/
theorem parse_bare {grammar : Grammar R} (rules : grammar.Standard) {parser : Parser R α}
    (standard : parser.Standard) (text : String) :
    (parser.parse grammar text).failed = (parser.bare.parse grammar.bare text).failed ∧
      (parser.parse grammar text).result = (parser.bare.parse grammar.bare text).result ∧
      (parser.parse grammar text).position = (parser.bare.parse grammar.bare text).position ∧
      (parser.parse grammar text).error.map Failure.rootCause =
        (parser.bare.parse grammar.bare text).error.map Failure.rootCause ∧
      (parser.parse grammar text).error.map Failure.isFatal =
        (parser.bare.parse grammar.bare text).error.map Failure.isFatal := by
  have parallel : State.Parallel .rootCause (.start text : State α) (.start text) :=
    ⟨rfl, rfl, rfl, .none⟩
  have rules (α : Type) (rule : R α) :
      Resembles .rootCause (grammar α rule) (grammar.bare α rule) := (rules α rule).resembles_bare
  have agrees : State.Agrees .rootCause (parser.parse grammar text)
      (parser.bare.parse grammar.bare text) := apply_agrees rules standard.resembles_bare parallel
  exact ⟨agrees.failed, agrees.result, agrees.position, agrees.map_error id,
    agrees.map_error Correspondence.rootCause.fatal⟩

end Parser

namespace Brackets

/-- Without its message the loop gives up for the same reason. -/
theorem leftRecursiveWords_bare :
    ((leftRecursiveWords 3).bare.parse (leftRecursive 3).bare "ab").error.map Failure.rootCause =
        some (.nestingTooDeep 3 0) ∧
      ((leftRecursiveWords 3).bare.parse (leftRecursive 3).bare "ab").error.map Failure.isFatal =
        some true := by
  obtain ⟨_, _, _, cause, fatal⟩ :=
    Parser.parse_bare (leftRecursive_standard 3) (leftRecursiveWords_standard 3) "ab"
  have failure : ((leftRecursiveWords 3).parse (leftRecursive 3) "ab").error =
      some (.mapped "no word" 0 (.nestingTooDeep 3 0)) := by decide +kernel
  rw [failure] at cause fatal
  exact ⟨cause.symm, fatal.symm⟩

end Brackets

end Descent
