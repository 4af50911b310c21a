import Descent.Unicode.CodeSet

set_option autoImplicit false

/-!
A value for every code point, as runs of equal values.

Tables write a partition as words `value=length`, from code point zero on, each length in base 36.
-/

namespace Descent.Unicode

/-- The first code point and the value of each run, in ascending order. -/
structure Partition where
  runs : Array (Nat × String)
  deriving Repr, Inhabited

namespace Partition

/-- Runs from values and lengths, the first run starting at a given code point. -/
def runsFrom : Nat → List (String × Nat) → List (Nat × String)
  | _, [] => []
  | start, (value, length) :: rest => (start, value) :: runsFrom (start + length) rest

/-- Reads one `value=length`. -/
def readRun (word : String) : String × Nat :=
  match partsOf '=' word with
  | [value, length] => (value, readBase36 length)
  | _ => (word, 0)

/-- Reads the form in which tables write a partition. -/
def ofRuns (rows : List String) : Partition :=
  ⟨(runsFrom 0 ((wordsOf rows).map readRun)).toArray⟩

/-- The value of the last run that starts at or before a code point, among the runs at the indices
from `low` up to, not including, `high`; `found` is the answer when there is none. -/
def searchRuns (runs : Array (Nat × String)) (code : Nat) :
    (steps low high : Nat) → (found : String) → String
  | 0, _, _, found => found
  | steps + 1, low, high, found =>
    if low < high then
      let middle := (low + high) / 2
      match runs[middle]? with
      | none => found
      | some (start, value) =>
        if code < start then searchRuns runs code steps low middle found
        else searchRuns runs code steps (middle + 1) high value
    else found

/-- The value of a code point. -/
def valueAt (partition : Partition) (code : Nat) : String :=
  searchRuns partition.runs code (partition.runs.size + 1) 0 partition.runs.size ""

/-- The ranges of the runs whose value is wanted. -/
def rangesWhere (wanted : String → Bool) : List (Nat × String) → List (Nat × Nat)
  | [] => []
  | [(start, value)] => if wanted value then [(start, lastCodePoint)] else []
  | (start, value) :: (next, value') :: rest =>
    if wanted value then (start, next - 1) :: rangesWhere wanted ((next, value') :: rest)
    else rangesWhere wanted ((next, value') :: rest)

/-- The code points whose value is wanted. -/
def codesWhere (partition : Partition) (wanted : String → Bool) : CodeSet :=
  .ofRanges (rangesWhere wanted partition.runs.toList)

end Partition

end Descent.Unicode
