import Descent.Proofs.Correspondence

set_option autoImplicit false

/-!
A parser sees only what remains.

What a standard parser does at some place of a text it also does at the start of what remains there.
Only positions tell the two runs apart, and messages of the grammar's own, for these may be about
positions.
-/

namespace Descent

namespace Failure

/-- The same failure without the words of the messages laid over it. -/
def unworded : Failure → Failure
  | .mapped _ position cause => .mapped "" position cause.unworded
  | failure => failure

@[simp] theorem isFatal_unworded (failure : Failure) :
    failure.unworded.isFatal = failure.isFatal := by
  induction failure with
  | mapped message position cause ih => exact ih
  | _ => rfl

end Failure

/-- The first run is so many bytes further on in its text, and its messages may be others. -/
def Correspondence.ahead (offset : Nat) : Correspondence where
  offset
  Like first second := first.unworded = (second.shift offset).unworded
  raised _ := rfl
  fatal := by
    intro first second like
    rw [← Failure.isFatal_unworded first, like, Failure.isFatal_unworded, Failure.isFatal_shift]

namespace State

variable {α : Type}

theorem parallel_of_remaining {state other : State α} (before : String)
    (text : state.text = before ++ other.text) (position : state.position = before.utf8ByteSize)
    (start : other.position = 0) (depth : state.depth = other.depth)
    (running : state.failed = false) (running' : other.failed = false) :
    Parallel (.ahead before.utf8ByteSize) state other where
  rest :=
    calc
      state.rest = Text.dropBytes state.position state.text.toList := state.cursor.rest_eq
      _ = Text.dropBytes (Text.byteLength before.toList) (before.toList ++ other.text.toList) := by
        rw [text, position, String.toList_append, Text.byteLength_toList]
      _ = Text.dropBytes other.position other.text.toList := by
        rw [Text.dropBytes_byteLength_append, start, Text.dropBytes_zero]
      _ = other.rest := other.cursor.rest_eq.symm
  position := by rw [position, start, Nat.zero_add]; rfl
  depth := depth
  error := by
    have none : state.error = none := by simpa [State.failed] using running
    have none' : other.error = .none := by simpa [State.failed] using running'
    rw [none, none']
    exact .none

end State

namespace Parser

variable {R : Type → Type} {α : Type}

theorem Standard.resembles_ahead (offset : Nat) {parser : Parser R α} (standard : parser.Standard) :
    Resembles (.ahead offset) parser parser := by
  apply standard.resembles
  intro message cause cause' position like
  exact congrArg (Failure.mapped "" (position + offset)) like

/-- A standard parser does the same after the beginning of a text as on what follows alone, with all
positions that much smaller. -/
theorem apply_sees_remaining {grammar : Grammar R} (rules : grammar.Standard) {parser : Parser R α}
    (standard : parser.Standard) {state other : State α} (before : String)
    (text : state.text = before ++ other.text) (position : state.position = before.utf8ByteSize)
    (start : other.position = 0) (depth : state.depth = other.depth)
    (running : state.failed = false) (running' : other.failed = false) :
    (parser.apply grammar state).failed = (parser.apply grammar other).failed ∧
      (parser.apply grammar state).result = (parser.apply grammar other).result ∧
      (parser.apply grammar state).position =
        (parser.apply grammar other).position + before.utf8ByteSize ∧
      (parser.apply grammar state).error.map Failure.unworded =
        (parser.apply grammar other).error.map
          fun failure => (failure.shift before.utf8ByteSize).unworded := by
  have parallel := State.parallel_of_remaining before text position start depth running running'
  have rules : ∀ (α : Type) (rule : R α),
      Resembles (.ahead before.utf8ByteSize) (grammar α rule) (grammar α rule) :=
    fun α rule => (rules α rule).resembles_ahead _
  have agrees := apply_agrees rules (standard.resembles_ahead _) parallel
  exact ⟨agrees.failed, agrees.result, agrees.position, agrees.map_error id⟩

end Parser

namespace Brackets

theorem tokens_standard {R : Type → Type} : (tokens : Parser R String).Standard := by
  refine .named _ (.errorMap _ (.between (.literal _) (.literal _) (.many (.choice ?_))))
  simpa using ⟨.run .letters, .run .digits⟩

/-- Two bytes further on the same bracket is missing, although the message names another place. -/
theorem tokens_see_remaining :
    let state : State String := ⟨.place "é(a;" 2, .empty, none, 7⟩
    let other : State String := ⟨.place "(a;" 0, .value "a", none, 7⟩
    (tokens.apply grammar state).failed = true ∧
      (tokens.apply grammar state).result = (tokens.apply grammar other).result ∧
      (tokens.apply grammar state).position = (tokens.apply grammar other).position + 2 ∧
      (tokens.apply grammar state).error.map Failure.unworded =
        some (.mapped "" 4 (.literalMismatch ")" ";" 4)) := by
  intro state other
  have rules : grammar.Standard := grammarWithin_standard defaultLimit
  have text : state.text = "é" ++ other.text := by decide
  have place : state.position = "é".utf8ByteSize := by decide
  have start : other.position = 0 := rfl
  have depth : state.depth = other.depth := rfl
  have running : state.failed = false := rfl
  have running' : other.failed = false := rfl
  obtain ⟨failed, result, position, error⟩ :=
    Parser.apply_sees_remaining rules tokens_standard "é" text place start depth running running'
  let cause : Failure := .literalMismatch ")" ";" 2
  have missing : (tokens.apply grammar other).error =
      some (.mapped (tokensMessage cause 2) 2 cause) := by decide +kernel
  refine ⟨?_, result, position, ?_⟩
  · rw [failed, State.failed, missing]
    rfl
  · rw [error, missing]
    rfl

end Brackets

end Descent
