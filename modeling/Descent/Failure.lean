import Descent.Text.Quoted

set_option autoImplicit false

/-!
Why a parse failed. Each failure knows the position at which it arose; a message can be laid over
a failure, which is then kept as its cause.
-/

namespace Descent

/-- The reason of a failure, with its position in bytes. -/
inductive Failure where
  /-- The text ends where a matcher expected something. -/
  | unexpectedEnd (matcher expected : String) (position : Nat)
  /-- Something else stands where a literal was expected; `found` is how it begins. -/
  | literalMismatch (expected found : String) (position : Nat)
  /-- The text does not match an expression. -/
  | patternMismatch (pattern : String) (position : Nat)
  /-- None of several alternatives succeeds. -/
  | choiceExhausted (position : Nat)
  /-- Nothing was found where at least one item had to be. -/
  | emptyRepetition (position : Nat)
  /-- Nothing was found where at least one item of a separated list had to be. -/
  | emptySeparatedList (position : Nat)
  /-- More recursive rules are open than the limit allows. -/
  | nestingTooDeep (limit position : Nat)
  /-- A message of the grammar's own in front of another failure. -/
  | mapped (message : String) (position : Nat) (cause : Failure)
  deriving DecidableEq, Repr, Inhabited

namespace Failure

/-- Where the failure arose. -/
def position : Failure → Nat
  | .unexpectedEnd _ _ position
  | .literalMismatch _ _ position
  | .patternMismatch _ position
  | .choiceExhausted position
  | .emptyRepetition position
  | .emptySeparatedList position
  | .nestingTooDeep _ position
  | .mapped _ position _ => position

/-- The failure under all messages laid over it. -/
def rootCause : Failure → Failure
  | .mapped _ _ cause => cause.rootCause
  | failure => failure

/-- Whether a failure is the one that no alternative and no repetition recovers from. -/
def isNesting : Failure → Bool
  | .nestingTooDeep _ _ => true
  | _ => false

/-- Whether the whole parse must stop, instead of trying another way. -/
def isFatal (failure : Failure) : Bool := failure.rootCause.isNesting

/-- The failure that a message was laid over. -/
def source? : Failure → Option Failure
  | .mapped _ _ cause => some cause
  | _ => none

/-- The failure in words. -/
def message : Failure → String
  | .unexpectedEnd matcher expected position =>
    matcher ++ ": tried to match " ++ expected ++ ", but got unexpected end of input at index " ++
      toString position
  | .literalMismatch expected found position =>
    "literal: tried to match " ++ Text.quoted expected ++ " at index " ++ toString position ++
      ", but got " ++ Text.quoted found
  | .patternMismatch pattern position =>
    "pattern: couldn't match /" ++ pattern ++ "/ at index " ++ toString position
  | .choiceExhausted position =>
    "choice: unable to match with any parser at index " ++ toString position
  | .emptyRepetition position =>
    "many1: unable to match any input using parser at index " ++ toString position
  | .emptySeparatedList position =>
    "sep_by1: unable to match any input using parser at index " ++ toString position
  | .nestingTooDeep limit position =>
    "lazy: nesting deeper than " ++ toString limit ++ " levels at index " ++ toString position
  | .mapped message _ _ => message

@[simp] theorem rootCause_mapped (message : String) (position : Nat) (cause : Failure) :
    (mapped message position cause).rootCause = cause.rootCause := rfl

@[simp] theorem isFatal_mapped (message : String) (position : Nat) (cause : Failure) :
    (mapped message position cause).isFatal = cause.isFatal := rfl

end Failure

end Descent
