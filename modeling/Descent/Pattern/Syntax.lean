set_option autoImplicit false

/-!
The written form of patterns, before flags give it a meaning.
-/

namespace Descent.Pattern

/-- The options that change how a pattern is read or what it means. -/
inductive Flag where
  /-- `i`: letters match in either case. -/
  | ignoreCase
  /-- `m`: `^` and `$` match at every line. -/
  | multiLine
  /-- `s`: a dot matches a line feed too. -/
  | dotAll
  /-- `U`: repetition is lazy, unless marked. -/
  | swapGreed
  /-- `u`: classes are about characters, not about ASCII. -/
  | unicode
  /-- `R`: a line ends with a carriage return, a line feed or both. -/
  | carriageReturn
  /-- `x`: blanks and comments in the pattern do not count. -/
  | ignoreBlanks
  deriving DecidableEq, Repr

/-- One character of a pattern that stands for itself. -/
structure Literal where
  char : Char
  /-- Whether it is written as a byte, with exactly two hexadecimal digits. -/
  isByte : Bool
  deriving DecidableEq, Repr

/-- Tests of the place between two characters, as they are written. -/
inductive Anchor where
  /-- `^` -/
  | lineStart
  /-- `$` -/
  | lineEnd
  /-- `\A` -/
  | textStart
  /-- `\z` -/
  | textEnd
  /-- `\b` -/
  | wordBoundary
  /-- `\B` -/
  | notWordBoundary
  /-- `\<` -/
  | wordStart
  /-- `\>` -/
  | wordEnd
  /-- A word may start here: no word character precedes. -/
  | wordStartHalf
  /-- A word may end here: no word character follows. -/
  | wordEndHalf
  deriving DecidableEq, Repr

/-- The classes with a one-letter escape. -/
inductive Shorthand where
  /-- `\d` -/
  | digit
  /-- `\s` -/
  | blank
  /-- `\w` -/
  | word
  deriving DecidableEq, Repr

/-- A property of characters, by one name or by a name and a value. -/
inductive PropertyQuery where
  | named (name : String)
  | valued (name value : String)
  deriving DecidableEq, Repr

/-- How two class sets are combined. -/
inductive SetOperator where
  | intersection
  | difference
  | symmetricDifference
  deriving DecidableEq, Repr

mutual

/-- What can stand in a bracketed class. -/
inductive ClassItem where
  | empty
  | literal (literal : Literal)
  | range (first last : Literal)
  /-- A class of ASCII by its name, such as `[:alpha:]`. -/
  | ascii (name : String) (negated : Bool)
  | property (query : PropertyQuery) (negated : Bool)
  | shorthand (kind : Shorthand) (negated : Bool)
  | bracketed (negated : Bool) (set : ClassSet)
  | union (items : List ClassItem)

/-- The contents of a bracketed class. -/
inductive ClassSet where
  | item (item : ClassItem)
  | operation (operator : SetOperator) (left right : ClassSet)

end

/-- A change of flags: each flag with its new value. -/
abbrev FlagChange := List (Flag × Bool)

/-- What a group does besides grouping. -/
inductive GroupKind where
  /-- It is numbered. -/
  | capture
  /-- It changes flags within. -/
  | flags (change : FlagChange)
  deriving DecidableEq, Repr

/-- A pattern as it is written. -/
inductive Node where
  | empty
  /-- Flags changed up to the end of the enclosing group. -/
  | flags (change : FlagChange)
  | literal (literal : Literal)
  | dot
  | anchor (anchor : Anchor)
  | property (query : PropertyQuery) (negated : Bool)
  | shorthand (kind : Shorthand) (negated : Bool)
  | bracketed (negated : Bool) (set : ClassSet)
  | repetition (least : Nat) (most : Option Nat) (greedy : Bool) (body : Node)
  | group (kind : GroupKind) (body : Node)
  | alternation (alternatives : List Node)
  | concatenation (parts : List Node)

mutual

/-- How deeply the items of a class are nested. -/
def ClassItem.nesting : ClassItem → Nat
  | .bracketed _ set => set.nesting + 1
  | .union items => ClassItem.nestingOfList items + 1
  | _ => 0

/-- The deepest nesting among several items. -/
def ClassItem.nestingOfList : List ClassItem → Nat
  | [] => 0
  | item :: items => max item.nesting (ClassItem.nestingOfList items)

/-- How deeply a class set is nested. -/
def ClassSet.nesting : ClassSet → Nat
  | .item item => item.nesting
  | .operation _ left right => max left.nesting right.nesting + 1

end

mutual

/-- How deeply a pattern is nested. -/
def Node.nesting : Node → Nat
  | .bracketed _ set => set.nesting + 1
  | .repetition _ _ _ body => body.nesting + 1
  | .group _ body => body.nesting + 1
  | .alternation alternatives => Node.nestingOfList alternatives + 1
  | .concatenation parts => Node.nestingOfList parts + 1
  | _ => 0

/-- The deepest nesting among several patterns. -/
def Node.nestingOfList : List Node → Nat
  | [] => 0
  | node :: nodes => max node.nesting (Node.nestingOfList nodes)

end

end Descent.Pattern
