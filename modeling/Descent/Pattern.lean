import Descent.Pattern.Program
import Descent.Pattern.Reader
import Descent.Pattern.Size

set_option autoImplicit false

/-!
Patterns: what a text has to look like, written as a regular expression.
-/

namespace Descent

/-- Why a text cannot be used as a pattern. -/
inductive PatternError where
  /-- It is not the written form of a pattern. -/
  | invalid
  /-- Its automaton would take too much memory. -/
  | tooBig
  deriving DecidableEq, Repr

/-- A pattern together with its written form. -/
structure Pattern where
  source : String
  program : Pattern.Program

namespace Pattern

/-- Reads a pattern under flags that hold from its start. -/
def compile (flags : Flags) (source : String) : Except PatternError Pattern :=
  match Node.read? flags.ignoreBlanks source with
  | none => .error .invalid
  | some node =>
    match Expression.ofNode? flags node with
    | none => .error .invalid
    | some (expression, _) =>
      if expression.fits then .ok ⟨source, .ofExpression expression⟩ else .error .tooBig

/-- The written form of a pattern that matches only at the start of a text. -/
def anchoredSource (source : String) : String := "^(?:" ++ source ++ ")"

/-- Reads a pattern that matches only at the start of a text. -/
def compileAnchored (source : String) : Except PatternError Pattern :=
  match compile {} (anchoredSource source) with
  | .ok anchored => .ok { anchored with source }
  | .error error => .error error

/-- The same pattern, anchored at the start of a text. It is read again from its written form, so
that only flags written there count; a pattern that cannot be read so stays as it is. -/
def anchored (pattern : Pattern) : Pattern :=
  match compileAnchored pattern.source with
  | .ok anchored => anchored
  | .error _ => pattern

/-- The number of characters that the pattern matches at the start of a text. -/
def matchLength? (pattern : Pattern) (text : List Char) : Option Nat :=
  match pattern.program.matchLength? text with
  | some count => if count ≤ text.length then some count else none
  | none => none

end Pattern

end Descent
