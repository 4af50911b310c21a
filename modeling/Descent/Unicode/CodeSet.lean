set_option autoImplicit false

/-!
Sets of code points, as ranges in ascending order that neither overlap nor touch.

Tables are rows of words with a blank between one word and the next. They write such a set as
numbers in base 36: how many code points to leave out, how many to take, and so on.
-/

namespace Descent.Unicode

/-- The value of a digit in base 36, zero for any other character. -/
def digitOfBase36 (digit : Char) : Nat :=
  if '0' ≤ digit ∧ digit ≤ '9' then digit.toNat - '0'.toNat
  else if 'a' ≤ digit ∧ digit ≤ 'z' then digit.toNat - 'a'.toNat + 10
  else 0

/-- The number that a text of lower-case digits writes in base 36. -/
def readBase36 (text : String) : Nat :=
  text.toList.foldl (fun number digit => number * 36 + digitOfBase36 digit) 0

/-- The parts of a text between one separator and the next. -/
def partsOf (separator : Char) (text : String) : List String :=
  (text.toList.splitOn separator).map String.ofList

/-- The words of a table. -/
def wordsOf (rows : List String) : List String := rows.flatMap (partsOf ' ')

/-- The greatest code point. -/
def lastCodePoint : Nat := 0x10FFFF

/-- A set of code points: the first and the last member of each range. -/
structure CodeSet where
  ranges : Array (Nat × Nat)
  deriving Repr, DecidableEq, Inhabited

namespace CodeSet

/-- The set without members. -/
def empty : CodeSet := ⟨#[]⟩

/-- One code point alone. -/
def single (code : Nat) : CodeSet := ⟨#[(code, code)]⟩

/-- All code points that encode a character, thus without the surrogates. -/
def full : CodeSet := ⟨#[(0, 0xD7FF), (0xE000, lastCodePoint)]⟩

/-- The code points of ASCII. -/
def ascii : CodeSet := ⟨#[(0, 0x7F)]⟩

/-- Joins ranges that overlap or touch, given ranges sorted by their first members. -/
def joinSorted : List (Nat × Nat) → List (Nat × Nat)
  | [] => []
  | [range] => [range]
  | (low, high) :: (low', high') :: rest =>
    if low' ≤ high + 1 then joinSorted ((low, max high high') :: rest)
    else (low, high) :: joinSorted ((low', high') :: rest)
termination_by ranges => ranges.length

/-- The union of any ranges, in any order; a range whose last member is below its first is empty. -/
def ofRanges (ranges : List (Nat × Nat)) : CodeSet :=
  let proper := ranges.filter fun (low, high) => decide (low ≤ high)
  ⟨(joinSorted (proper.mergeSort fun first second => decide (first.1 ≤ second.1))).toArray⟩

/-- Ranges from alternating gaps and lengths, the first gap counted from a given code point. -/
def rangesOfRuns : Nat → List Nat → List (Nat × Nat)
  | start, gap :: length :: rest =>
    (start + gap, start + gap + length - 1) :: rangesOfRuns (start + gap + length) rest
  | _, _ => []

/-- Reads the form in which tables write a set. -/
def ofRuns (rows : List String) : CodeSet :=
  ⟨(rangesOfRuns 0 ((wordsOf rows).map readBase36)).toArray⟩

/-- Looks for a code point among the ranges at the indices from `low` up to, not including, `high`.
Each step halves the interval, so that `steps` need only bound its length. -/
def searchRanges (ranges : Array (Nat × Nat)) (code : Nat) : (steps low high : Nat) → Bool
  | 0, _, _ => false
  | steps + 1, low, high =>
    if low < high then
      let middle := (low + high) / 2
      match ranges[middle]? with
      | none => false
      | some (first, last) =>
        if code < first then searchRanges ranges code steps low middle
        else if last < code then searchRanges ranges code steps (middle + 1) high
        else true
    else false

/-- Whether a code point is a member. -/
def contains (set : CodeSet) (code : Nat) : Bool :=
  searchRanges set.ranges code set.ranges.size 0 set.ranges.size

/-- Whether the set has no members. -/
def isEmpty (set : CodeSet) : Bool := set.ranges.isEmpty

/-- The members of either set. -/
def union (first second : CodeSet) : CodeSet :=
  ofRanges (first.ranges.toList ++ second.ranges.toList)

/-- The gaps between ranges, from a given code point to the last one. -/
def gapsFrom (last : Nat) : Nat → List (Nat × Nat) → List (Nat × Nat)
  | start, [] => if start ≤ last then [(start, last)] else []
  | start, (low, high) :: rest =>
    if start < low then (start, low - 1) :: gapsFrom last (high + 1) rest
    else gapsFrom last (high + 1) rest

/-- The numbers up to `last` that are not members. -/
def complementUpTo (last : Nat) (set : CodeSet) : CodeSet :=
  ⟨(gapsFrom last 0 set.ranges.toList).toArray⟩

/-- The members of both sets: what remains after leaving out all that either set lacks. -/
def inter (first second : CodeSet) : CodeSet :=
  complementUpTo lastCodePoint
    (union (complementUpTo lastCodePoint first) (complementUpTo lastCodePoint second))

/-- The members of the first set that the second lacks. -/
def difference (first second : CodeSet) : CodeSet :=
  inter first (complementUpTo lastCodePoint second)

/-- The members of exactly one of the sets. -/
def symmetricDifference (first second : CodeSet) : CodeSet :=
  difference (union first second) (inter first second)

/-- The characters that are not members. -/
def complement (set : CodeSet) : CodeSet := difference full set

/-- Whether every member is a code point of ASCII. -/
def isAscii (set : CodeSet) : Bool :=
  set.ranges.all fun (_, high) => decide (high < 0x80)

end CodeSet

end Descent.Unicode
