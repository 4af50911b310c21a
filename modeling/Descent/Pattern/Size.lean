import Descent.Pattern.Expression

set_option autoImplicit false

/-!
How much memory the automaton of a pattern takes, over the bytes of UTF-8.

A pattern is measured as two automata, one that reads forwards and one that reads backwards. Only
the first has states for groups. A class beyond ASCII is a tree of byte ranges; the forward
automaton shares equal branches of it, the backward one only equal beginnings.
-/

namespace Descent.Pattern

open Unicode (CodeSet)

/-- A range of bytes. -/
abbrev ByteRange := Nat × Nat

/-- The bytes of a code point in UTF-8. -/
def bytesOfCode (code : Nat) : List Nat :=
  if code < 0x80 then [code]
  else if code < 0x800 then [0xC0 + code / 0x40, 0x80 + code % 0x40]
  else if code < 0x10000 then
    [0xE0 + code / 0x1000, 0x80 + code / 0x40 % 0x40, 0x80 + code % 0x40]
  else
    [0xF0 + code / 0x40000, 0x80 + code / 0x1000 % 0x40, 0x80 + code / 0x40 % 0x40,
      0x80 + code % 0x40]

/-- The first code point in a range after which another number of bytes is needed. -/
def lengthBorder? (low high : Nat) : Option Nat :=
  [0x7F, 0x7FF, 0xFFFF].find? fun border => low ≤ border && border < high

/-- The last code point of the first part of a range, if the range has to be split so that, in each
part, all bytes after the first that varies take all their values. -/
def alignmentBorder? (low high : Nat) : Option Nat :=
  if high < 0x80 then none
  else
    [0x40, 0x1000, 0x40000].findSome? fun block =>
      if low / block = high / block then none
      else if low % block ≠ 0 then some (low / block * block + block - 1)
      else if high % block ≠ block - 1 then some (high / block * block - 1)
      else none

/-- The sequences of byte ranges that encode a range of code points. -/
def byteSequences : (fuel : Nat) → (low high : Nat) → List (List ByteRange)
  | 0, _, _ => []
  | fuel + 1, low, high =>
    match lengthBorder? low high <|> alignmentBorder? low high with
    | some border => byteSequences fuel low border ++ byteSequences fuel (border + 1) high
    | none => [(bytesOfCode low).zip (bytesOfCode high)]

/-- The sequences of byte ranges that encode a set. A range is split a few dozen times at most. -/
def byteSequencesOfSet (set : CodeSet) : List (List ByteRange) :=
  set.ranges.toList.flatMap fun (low, high) => byteSequences 64 low high

/-- Groups sequences by their first range. Equal ones stand side by side. -/
def groupByFirst : List (List ByteRange) → List (ByteRange × List (List ByteRange))
  | [] => []
  | [] :: rest => groupByFirst rest
  | (range :: tail) :: rest =>
    match groupByFirst rest with
    | (range', tails) :: groups =>
      if range = range' then (range, tail :: tails) :: groups
      else (range, [tail]) :: (range', tails) :: groups
    | [] => [(range, [tail])]

/-- A state of the automaton of a class: each range with the number of the state after it. -/
abbrev ClassState := List (ByteRange × Nat)

mutual

/-- The number of the state from which the sequences are read, given the states so far; number zero
is the end. `depth` bounds the length of the sequences. -/
def shareStates : (depth : Nat) → List (List ByteRange) → List ClassState →
    Nat × List ClassState
  | 0, _, states => (0, states)
  | depth + 1, sequences, states =>
    match groupByFirst sequences with
    | [] => (0, states)
    | groups =>
      let (state, states) := shareBranches depth groups states
      match states.findIdx? (· = state) with
      | some index => (states.length - index, states)
      | none => (states.length + 1, state :: states)

/-- The state with the given branches. -/
def shareBranches : (depth : Nat) → List (ByteRange × List (List ByteRange)) →
    List ClassState → ClassState × List ClassState
  | _, [], states => ([], states)
  | depth, (range, tails) :: groups, states =>
    let (target, states) := shareStates depth tails states
    let (branches, states) := shareBranches depth groups states
    ((range, target) :: branches, states)

end

/-- The number of different beginnings of some sequences. -/
def countBeginnings : (depth : Nat) → List (List ByteRange) → Nat
  | 0, _ => 0
  | depth + 1, sequences =>
    let groups := groupByFirst sequences
    (groups.map fun (_, tails) => 1 + countBeginnings depth tails).sum

/-- The bytes that a state takes. -/
def stateBytes : Nat := 32

/-- The bytes that a transition takes. -/
def transitionBytes : Nat := 8

/-- The bytes that a branch without a character takes. -/
def branchBytes : Nat := 4

/-- The bytes of a choice between so many branches. -/
def choiceBytes (branches : Nat) : Nat := stateBytes + branches * branchBytes

/-- The bytes of a class. -/
def classBytes (backwards : Bool) (set : CodeSet) : Nat :=
  if set.isEmpty then stateBytes
  else if set.isAscii then 2 * stateBytes + set.ranges.size * transitionBytes
  else
    let sequences := byteSequencesOfSet set
    if backwards then
      choiceBytes sequences.length + (1 + countBeginnings 4 sequences) * stateBytes
    else
      let states := (shareStates 5 sequences []).2
      (1 + states.length) * stateBytes + states.flatten.length * transitionBytes

mutual

/-- The bytes of an expression's automaton. -/
def Expression.bytes (backwards : Bool) : Expression → Nat
  | .empty => stateBytes
  | .char letter => letter.utf8Size * stateBytes
  | .set members => classBytes backwards members
  | .test _ => stateBytes
  | .repetition least most _ body =>
    let body' := body.bytes backwards
    match least, most with
    | 0, none =>
      if body.needsCharacter then choiceBytes 2 + body'
      else 2 * choiceBytes 2 + stateBytes + body'
    | least, none => least * body' + choiceBytes 2
    | 0, some 1 => choiceBytes 2 + body' + stateBytes
    | least, some most =>
      let needed := if least = 0 then stateBytes else least * body'
      if least = most then needed
      else needed + stateBytes + (most - least) * (choiceBytes 2 + body')
  | .capture body => (if backwards then 0 else 2 * stateBytes) + body.bytes backwards
  | .concatenation parts => max stateBytes (Expression.bytesOfList backwards parts)
  | .alternation alternatives =>
    choiceBytes alternatives.length + stateBytes + Expression.bytesOfList backwards alternatives

/-- The bytes of several expressions' automata. -/
def Expression.bytesOfList (backwards : Bool) : List Expression → Nat
  | [] => 0
  | expression :: rest => expression.bytes backwards + Expression.bytesOfList backwards rest

end

/-- The greatest size of an automaton, in bytes. -/
def sizeLimit : Nat := 10 * 1024 * 1024

/-- Whether both automata of an expression keep to the limit. -/
def Expression.fits (expression : Expression) : Bool :=
  expression.bytes false ≤ sizeLimit && expression.bytes true ≤ sizeLimit

end Descent.Pattern
