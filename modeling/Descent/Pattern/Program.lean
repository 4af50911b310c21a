import Descent.Pattern.Expression

set_option autoImplicit false

/-!
Patterns as programs, and the search for a match at the start of a text.

A program is run on all ways to match at once: its threads are kept in order of preference, and the
match of the most preferred thread counts. The work for each character is bounded by the length of
the program, whatever the pattern.
-/

namespace Descent.Pattern

open Unicode (CodeSet)

/-- One step of a program; the numbers are the places of instructions. -/
inductive Instruction where
  /-- The text so far is a match. -/
  | accept
  /-- Takes a character of a set. -/
  | take (set : CodeSet) (next : Nat)
  /-- Goes on if a test succeeds here. -/
  | test (test : Test) (next : Nat)
  /-- Goes on in several ways, the most preferred first. -/
  | branch (targets : List Nat)

/-- The instructions written so far. -/
abbrev Draft := StateM (Array Instruction)

namespace Draft

/-- Adds an instruction and gives its place. -/
def add (instruction : Instruction) : Draft Nat := fun instructions =>
  (instructions.size, instructions.push instruction)

/-- Replaces the instruction at a place. -/
def replace (place : Nat) (instruction : Instruction) : Draft Unit :=
  modify fun instructions => instructions.setIfInBounds place instruction

/-- The same piece several times, one copy after the other, before `next`. -/
def copies (piece : Nat → Draft Nat) : Nat → Nat → Draft Nat
  | 0, next => pure next
  | count + 1, next => do copies piece count (← piece next)

/-- Two targets in order of preference: the body first if the repetition is greedy. -/
def preferring (greedy : Bool) (body next : Nat) : Instruction :=
  .branch (if greedy then [body, next] else [next, body])

/-- Optional copies before `next`: each is entered or everything after it is left out. -/
def optionalCopies (greedy : Bool) (piece : Nat → Draft Nat) (done : Nat) :
    Nat → Nat → Draft Nat
  | 0, next => pure next
  | count + 1, next => do
    let body ← piece next
    let entry ← add (preferring greedy body done)
    optionalCopies greedy piece done count entry

/-- A piece once or more. -/
def oneOrMore (greedy : Bool) (piece : Nat → Draft Nat) (next : Nat) : Draft (Nat × Nat) := do
  let again ← add (.branch [])
  let body ← piece again
  replace again (preferring greedy body next)
  return (body, again)

end Draft

open Draft

mutual

/-- The instructions of an expression before the place `next`; gives where they start. -/
def Expression.draft : Expression → (next : Nat) → Draft Nat
  | .empty, next => pure next
  | .char letter, next => add (.take (.single letter.toNat) next)
  | .set members, next => add (.take members next)
  | .test condition, next => add (.test condition next)
  | .capture body, next => body.draft next
  | .repetition least most greedy body, next =>
    match most with
    | none =>
      match least with
      | 0 => do
        let (start, again) ← oneOrMore greedy body.draft next
        if body.needsCharacter then return again
        else add (preferring greedy start next)
      | least + 1 => do
        let (start, _) ← oneOrMore greedy body.draft next
        copies body.draft least start
    | some most => do
      let entry ← optionalCopies greedy body.draft next (most - least) next
      copies body.draft least entry
  | .concatenation parts, next => Expression.draftParts parts next
  | .alternation alternatives, next => do
    let targets ← Expression.draftAlternatives alternatives next
    add (.branch targets)

/-- The instructions of expressions in sequence. -/
def Expression.draftParts : List Expression → (next : Nat) → Draft Nat
  | [], next => pure next
  | part :: parts, next => do part.draft (← Expression.draftParts parts next)

/-- The starts of the instructions of alternatives. -/
def Expression.draftAlternatives : List Expression → (next : Nat) → Draft (List Nat)
  | [], _ => pure []
  | alternative :: rest, next => do
    let start ← alternative.draft next
    let starts ← Expression.draftAlternatives rest next
    return start :: starts

end

/-- A pattern ready to be run. -/
structure Program where
  instructions : Array Instruction
  /-- Where a thread starts. -/
  start : Nat

/-- The program of an expression. -/
def Program.ofExpression (expression : Expression) : Program :=
  let (start, instructions) := expression.draft 0 #[.accept]
  ⟨instructions, start⟩

/-- What was found by following all threads up to where each takes a character. -/
structure Frontier where
  /-- The sets to take from and the places after them, the most preferred first. -/
  threads : List (CodeSet × Nat)
  /-- Whether one thread matched; the less preferred ones are left out then. -/
  accepted : Bool
  /-- For each place, the last round in which it was visited. -/
  visited : Array Nat

/-- Follows the places to be visited, the most preferred first, up to where they take a character.
`threads` are the ones found so far, the least preferred first. No place is followed twice in one
round, so that `steps` need only bound the places and the branches between them. -/
def Program.follow (program : Program) (round : Nat) (before after : Option Char) :
    (steps : Nat) → (pending : List Nat) → List (CodeSet × Nat) → Array Nat → Frontier
  | 0, _, threads, visited => ⟨threads.reverse, false, visited⟩
  | _, [], threads, visited => ⟨threads.reverse, false, visited⟩
  | steps + 1, place :: pending, threads, visited =>
    if visited[place]? = some round then
      program.follow round before after steps pending threads visited
    else
      let visited := visited.setIfInBounds place round
      match program.instructions[place]? with
      | none => program.follow round before after steps pending threads visited
      | some .accept => ⟨threads.reverse, true, visited⟩
      | some (.take members next) =>
        program.follow round before after steps pending ((members, next) :: threads) visited
      | some (.test test next) =>
        if test.holds before after then
          program.follow round before after steps (next :: pending) threads visited
        else program.follow round before after steps pending threads visited
      | some (.branch targets) =>
        program.follow round before after steps (targets ++ pending) threads visited

/-- A bound for the places and branches that one round can visit. -/
def Program.work (program : Program) : Nat :=
  program.instructions.foldl (fun total instruction =>
    total + 2 + match instruction with | .branch targets => targets.length | _ => 0) 1

/-- The length of the preferred match, given the one found so far, the number of characters before
the place and the places to go on from. -/
def Program.search (program : Program) (work : Nat) : (before : Option Char) → (count : Nat) →
    (found : Option Nat) → (places : List Nat) → (visited : Array Nat) → List Char → Option Nat
  | before, count, found, places, visited, rest =>
    let frontier :=
      program.follow (count + 1) before rest.head? (work + places.length) places [] visited
    let found := if frontier.accepted then some count else found
    match rest with
    | [] => found
    | char :: rest =>
      match frontier.threads with
      | [] => found
      | threads =>
        let places := threads.filterMap fun (members, next) =>
          if members.contains char.toNat then some next else none
        program.search work (some char) (count + 1) found places frontier.visited rest
termination_by structural _ _ _ _ _ rest => rest

/-- The number of characters of the preferred match at the start of a text, if there is one. -/
def Program.matchLength? (program : Program) (text : List Char) : Option Nat :=
  program.search program.work none 0 none [program.start]
    (Array.replicate program.instructions.size 0) text

end Descent.Pattern
