import Descent.Output
import Descent.Failure
import Descent.Text.Cursor

set_option autoImplicit false

/-!
How far a parse has come. A state is never changed: each operation gives a new one.

Setting an error clears the result, and an error is never taken away again. A result that is given to
a failed state stays beside the error; no combinator gives one.
-/

namespace Descent

open Text (Cursor byteLength)

/-- A snapshot of a parse with a result over leaves of type `α`. -/
structure State (α : Type) where
  /-- The text and the place reached in it. -/
  cursor : Cursor
  /-- The result so far. -/
  result : Output α
  /-- The failure, if there was one. -/
  error : Option Failure
  /-- The number of recursive rules that are open. -/
  depth : Nat
  deriving DecidableEq

namespace State

variable {α β : Type}

/-- The start of a text. -/
def start (text : String) : State α := ⟨.place text 0, .empty, none, 0⟩

/-- The whole text. -/
abbrev text (state : State α) : String := state.cursor.text

/-- The place reached, in bytes from the start of the text. -/
abbrev position (state : State α) : Nat := state.cursor.position

/-- What has not been consumed; nothing, at a position that is no place between characters. -/
abbrev rest (state : State α) : List Char := state.cursor.rest

/-- Whether the parse has failed. -/
def failed (state : State α) : Bool := state.error.isSome

/-- Whether the parse has failed in a way that stops everything. -/
def failedFatally (state : State α) : Bool := state.error.any Failure.isFatal

/-- Whether the parse succeeded and consumed the whole text. -/
def isComplete (state : State α) : Bool :=
  !state.failed && state.position == byteLength state.text.toList

/-- The failure in words, and nothing after a success. -/
def errorMessage (state : State α) : String :=
  match state.error with
  | some failure => failure.message
  | none => ""

/-- The failure, or the result of a success. -/
def outcome (state : State α) : Except Failure (Output α) :=
  match state.error with
  | some failure => .error failure
  | none => .ok state.result

/-- The same state with another result. -/
def withResult (state : State α) (result : Output β) : State β :=
  ⟨state.cursor, result, state.error, state.depth⟩

/-- The same state at another position, with another result. -/
def withProgress (state : State α) (position : Nat) (result : Output β) : State β :=
  ⟨.place state.text position, result, state.error, state.depth⟩

/-- The state after some of the characters that remain, with another result. -/
def consume (state : State α) (count : Nat) (result : Output β) : State β :=
  ⟨state.cursor.advance count, result, state.error, state.depth⟩

/-- The same state, failed. Its result is cleared. -/
def withError (state : State α) (failure : Failure) : State β :=
  ⟨state.cursor, .empty, some failure, state.depth⟩

/-- The same state without its result. -/
def cleared (state : State α) : State β := state.withResult .empty

/-- The same state with another number of open rules. -/
def atDepth (state : State α) (depth : Nat) : State α := { state with depth }

@[simp] theorem cursor_withResult (state : State α) (result : Output β) :
    (state.withResult result).cursor = state.cursor := rfl

@[simp] theorem result_withResult (state : State α) (result : Output β) :
    (state.withResult result).result = result := rfl

@[simp] theorem error_withResult (state : State α) (result : Output β) :
    (state.withResult result).error = state.error := rfl

@[simp] theorem depth_withResult (state : State α) (result : Output β) :
    (state.withResult result).depth = state.depth := rfl

@[simp] theorem cursor_cleared (state : State α) :
    (state.cleared : State β).cursor = state.cursor := rfl

@[simp] theorem result_cleared (state : State α) :
    (state.cleared : State β).result = .empty := rfl

@[simp] theorem error_cleared (state : State α) :
    (state.cleared : State β).error = state.error := rfl

@[simp] theorem depth_cleared (state : State α) :
    (state.cleared : State β).depth = state.depth := rfl

@[simp] theorem cursor_withError (state : State α) (failure : Failure) :
    (state.withError failure : State β).cursor = state.cursor := rfl

@[simp] theorem result_withError (state : State α) (failure : Failure) :
    (state.withError failure : State β).result = .empty := rfl

@[simp] theorem error_withError (state : State α) (failure : Failure) :
    (state.withError failure : State β).error = some failure := rfl

@[simp] theorem depth_withError (state : State α) (failure : Failure) :
    (state.withError failure : State β).depth = state.depth := rfl

end State

end Descent
