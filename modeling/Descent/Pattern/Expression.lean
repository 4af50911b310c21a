import Descent.Pattern.Syntax
import Descent.Unicode.CaseFolding
import Descent.Unicode.Property

set_option autoImplicit false

/-!
What a pattern means: characters taken from sets, tests of a place, and ways to combine them, all
flags resolved.

A pattern is refused here if it asks for an unknown property, or if, where classes are about ASCII,
it would match what is not a whole character.
-/

namespace Descent.Pattern

open Unicode (CodeSet)

/-- A test of the place between two characters. Those about words say whether a word is made of
letters in general or of ASCII. -/
inductive Test where
  | textStart
  | textEnd
  | lineStart
  | lineEnd
  /-- A line starts, where a carriage return and a line feed together end one. -/
  | lineStartAfterReturn
  /-- A line ends, where a carriage return and a line feed together end one. -/
  | lineEndBeforeReturn
  | wordBoundary (unicode : Bool)
  | notWordBoundary (unicode : Bool)
  | wordStart (unicode : Bool)
  | wordEnd (unicode : Bool)
  | wordStartHalf (unicode : Bool)
  | wordEndHalf (unicode : Bool)
  deriving DecidableEq, Repr

/-- The characters of words in ASCII. -/
def asciiWordCharacters : CodeSet := ⟨#[(0x30, 0x39), (0x41, 0x5A), (0x5F, 0x5F), (0x61, 0x7A)]⟩

/-- Whether there is a character and it belongs to a word. -/
def isWordCharacter (unicode : Bool) : Option Char → Bool
  | none => false
  | some char =>
    if unicode && char.toNat ≥ 0x80 then Unicode.wordCharacters.contains char.toNat
    else asciiWordCharacters.contains char.toNat

/-- Whether a test succeeds between two characters, either of which may be missing. -/
def Test.holds (test : Test) (before after : Option Char) : Bool :=
  match test with
  | .textStart => before.isNone
  | .textEnd => after.isNone
  | .lineStart => before.isNone || before = some '\n'
  | .lineEnd => after.isNone || after = some '\n'
  | .lineStartAfterReturn =>
    before.isNone || before = some '\n' || (before = some '\r' && after ≠ some '\n')
  | .lineEndBeforeReturn =>
    after.isNone || after = some '\r' || (after = some '\n' && before ≠ some '\r')
  | .wordBoundary unicode => isWordCharacter unicode before != isWordCharacter unicode after
  | .notWordBoundary unicode => isWordCharacter unicode before == isWordCharacter unicode after
  | .wordStart unicode => !isWordCharacter unicode before && isWordCharacter unicode after
  | .wordEnd unicode => isWordCharacter unicode before && !isWordCharacter unicode after
  | .wordStartHalf unicode => !isWordCharacter unicode before
  | .wordEndHalf unicode => !isWordCharacter unicode after

/-- A pattern with its flags resolved. -/
inductive Expression where
  | empty
  | char (char : Char)
  | set (members : CodeSet)
  | test (test : Test)
  | repetition (least : Nat) (most : Option Nat) (greedy : Bool) (body : Expression)
  | capture (body : Expression)
  | concatenation (parts : List Expression)
  | alternation (alternatives : List Expression)

/-- The options in force at a place in the pattern. -/
structure Flags where
  ignoreCase : Bool := false
  multiLine : Bool := false
  dotAll : Bool := false
  swapGreed : Bool := false
  unicode : Bool := true
  carriageReturn : Bool := false
  ignoreBlanks : Bool := false
  deriving DecidableEq, Repr

/-- Sets one flag. -/
def Flags.set (flags : Flags) (flag : Flag) (value : Bool) : Flags :=
  match flag with
  | .ignoreCase => { flags with ignoreCase := value }
  | .multiLine => { flags with multiLine := value }
  | .dotAll => { flags with dotAll := value }
  | .swapGreed => { flags with swapGreed := value }
  | .unicode => { flags with unicode := value }
  | .carriageReturn => { flags with carriageReturn := value }
  | .ignoreBlanks => { flags with ignoreBlanks := value }

/-- Sets the flags of a change. -/
def Flags.apply (flags : Flags) (change : FlagChange) : Flags :=
  change.foldl (fun flags (flag, value) => flags.set flag value) flags

/-- The ranges of a class of ASCII. -/
def asciiClassRanges : String → List (Nat × Nat)
  | "alnum" => [(0x30, 0x39), (0x41, 0x5A), (0x61, 0x7A)]
  | "alpha" => [(0x41, 0x5A), (0x61, 0x7A)]
  | "ascii" => [(0x00, 0x7F)]
  | "blank" => [(0x09, 0x09), (0x20, 0x20)]
  | "cntrl" => [(0x00, 0x1F), (0x7F, 0x7F)]
  | "digit" => [(0x30, 0x39)]
  | "graph" => [(0x21, 0x7E)]
  | "lower" => [(0x61, 0x7A)]
  | "print" => [(0x20, 0x7E)]
  | "punct" => [(0x21, 0x2F), (0x3A, 0x40), (0x5B, 0x60), (0x7B, 0x7E)]
  | "space" => [(0x09, 0x0D), (0x20, 0x20)]
  | "upper" => [(0x41, 0x5A)]
  | "word" => [(0x30, 0x39), (0x41, 0x5A), (0x5F, 0x5F), (0x61, 0x7A)]
  | "xdigit" => [(0x30, 0x39), (0x41, 0x46), (0x61, 0x66)]
  | _ => []

namespace Flags

/-- A set with the case variants of its members, if case is ignored. -/
def foldCase (flags : Flags) (set : CodeSet) : CodeSet :=
  if !flags.ignoreCase then set
  else if flags.unicode then set.closeUnderCase
  else set.closeUnderAsciiCase

/-- The complement of a set, if it is negated. Where classes are about ASCII the complement is one
of bytes, and it is refused if it has a byte beyond ASCII. -/
def negate? (flags : Flags) (negated : Bool) (set : CodeSet) : Option CodeSet :=
  if !negated then some set
  else if flags.unicode then some set.complement
  else
    let bytes := set.complementUpTo 0xFF
    if bytes.isAscii then some bytes else none

/-- The set of a one-letter class. -/
def shorthandSet? (flags : Flags) (kind : Shorthand) (negated : Bool) : Option CodeSet :=
  flags.negate? negated <|
    if flags.unicode then
      match kind with
      | .digit => Unicode.decimalDigits
      | .blank => Unicode.whiteSpace
      | .word => Unicode.wordCharacters
    else
      match kind with
      | .digit => ⟨#[(0x30, 0x39)]⟩
      | .blank => ⟨#[(0x09, 0x0D), (0x20, 0x20)]⟩
      | .word => asciiWordCharacters

/-- The set of a property. -/
def propertySet? (flags : Flags) (query : PropertyQuery) (negated : Bool) : Option CodeSet :=
  if !flags.unicode then none
  else do
    let set ←
      match query with
      | .named name => Unicode.namedSet? name
      | .valued name value => Unicode.valuedSet? name value
    flags.negate? negated (flags.foldCase set)

/-- The code of a literal in a class, which has to be one of ASCII where classes are about it. -/
def literalCode? (flags : Flags) (literal : Literal) : Option Nat :=
  if flags.unicode || literal.char.toNat < 0x80 then some literal.char.toNat else none

mutual

/-- The set of an item of a class. -/
def itemSet? (flags : Flags) : ClassItem → Option CodeSet
  | .empty => some .empty
  | .literal literal => (flags.literalCode? literal).map .single
  | .range first last => do
    let low ← flags.literalCode? first
    let high ← flags.literalCode? last
    return .ofRanges [(low, high)]
  | .ascii name negated =>
    flags.negate? negated (flags.foldCase (.ofRanges (asciiClassRanges name)))
  | .property query negated => flags.propertySet? query negated
  | .shorthand kind negated => flags.shorthandSet? kind negated
  | .bracketed negated set => do
    let set ← classSet? flags set
    flags.negate? negated (flags.foldCase set)
  | .union items => itemSets? flags items

/-- The union of the sets of several items. -/
def itemSets? (flags : Flags) : List ClassItem → Option CodeSet
  | [] => some .empty
  | item :: items => do
    let first ← itemSet? flags item
    let rest ← itemSets? flags items
    return first.union rest

/-- The set of the contents of a class. -/
def classSet? (flags : Flags) : ClassSet → Option CodeSet
  | .item item => itemSet? flags item
  | .operation operator left right => do
    let left := flags.foldCase (← classSet? flags left)
    let right := flags.foldCase (← classSet? flags right)
    match operator with
    | .intersection => return left.inter right
    | .difference => return left.difference right
    | .symmetricDifference => return left.symmetricDifference right

end

/-- The test that an anchor stands for. -/
def anchorTest (flags : Flags) : Anchor → Test
  | .lineStart =>
    if !flags.multiLine then .textStart
    else if flags.carriageReturn then .lineStartAfterReturn
    else .lineStart
  | .lineEnd =>
    if !flags.multiLine then .textEnd
    else if flags.carriageReturn then .lineEndBeforeReturn
    else .lineEnd
  | .textStart => .textStart
  | .textEnd => .textEnd
  | .wordBoundary => .wordBoundary flags.unicode
  | .notWordBoundary => .notWordBoundary flags.unicode
  | .wordStart => .wordStart flags.unicode
  | .wordEnd => .wordEnd flags.unicode
  | .wordStartHalf => .wordStartHalf flags.unicode
  | .wordEndHalf => .wordEndHalf flags.unicode

/-- The set that a dot stands for. It is refused where classes are about ASCII, for it would match
any byte. -/
def dotSet? (flags : Flags) : Option CodeSet :=
  if !flags.unicode then none
  else if flags.dotAll then some .full
  else if flags.carriageReturn then some (CodeSet.complement ⟨#[(0x0A, 0x0A), (0x0D, 0x0D)]⟩)
  else some (CodeSet.single 0x0A).complement

end Flags

namespace Expression

/-- A set as an expression; a single character stands for itself. -/
def ofSet (members : CodeSet) : Expression :=
  match members.ranges.toList with
  | [(low, high)] => if low = high then .char (.ofNat low) else .set members
  | _ => .set members

/-- A literal. A byte beyond ASCII is refused where classes are about ASCII. -/
def ofLiteral? (flags : Flags) (literal : Literal) : Option Expression :=
  let code := literal.char.toNat
  if !flags.unicode && literal.isByte && code ≥ 0x80 then none
  else if flags.ignoreCase && (flags.unicode || code < 0x80) then
    some (.ofSet (flags.foldCase (.single code)))
  else some (.char literal.char)

mutual

/-- Whether an expression matches nothing but the empty text, as far as its form shows. -/
def isEmptyOnly : Expression → Bool
  | .empty => true
  | .char _ => false
  | .set _ => false
  | .test _ => true
  | .repetition _ most _ body => most.isSome && (most == some 0 || body.isEmptyOnly)
  | .capture body => body.isEmptyOnly
  | .concatenation parts => allEmptyOnly parts
  | .alternation alternatives => allEmptyOnly alternatives

/-- Whether all of several expressions match nothing but the empty text. -/
def allEmptyOnly : List Expression → Bool
  | [] => true
  | expression :: rest => expression.isEmptyOnly && allEmptyOnly rest

end

mutual

/-- Whether every match of an expression has a character, as far as its form shows. -/
def needsCharacter : Expression → Bool
  | .empty => false
  | .char _ => true
  | .set members => !members.isEmpty
  | .test _ => false
  | .repetition least _ _ body => least != 0 && body.needsCharacter
  | .capture body => body.needsCharacter
  | .concatenation parts => anyNeedsCharacter parts
  | .alternation alternatives => allNeedCharacter alternatives

/-- Whether one of several expressions needs a character. -/
def anyNeedsCharacter : List Expression → Bool
  | [] => false
  | expression :: rest => expression.needsCharacter || anyNeedsCharacter rest

/-- Whether all of several expressions need a character. -/
def allNeedCharacter : List Expression → Bool
  | [] => true
  | expression :: rest => expression.needsCharacter && allNeedCharacter rest

end

/-- A repetition. What matches only the empty text need not be repeated more than once, and no
repetition at all is the empty expression. -/
def repeated (least : Nat) (most : Option Nat) (greedy : Bool) (body : Expression) : Expression :=
  let (least, most) :=
    if body.isEmptyOnly then (min least 1, some (min (most.getD 1) 1)) else (least, most)
  if least = 0 ∧ most = some 0 then .empty
  else if least = 1 ∧ most = some 1 then body
  else .repetition least most greedy body

mutual

/-- The meaning of a pattern under given flags, and the flags in force after it. -/
def ofNode? (flags : Flags) : Node → Option (Expression × Flags)
  | .empty => some (.empty, flags)
  | .flags change => some (.empty, flags.apply change)
  | .literal literal => (ofLiteral? flags literal).map (·, flags)
  | .dot => flags.dotSet?.map fun members => (.set members, flags)
  | .anchor anchor => some (.test (flags.anchorTest anchor), flags)
  | .property query negated =>
    (flags.propertySet? query negated).map fun members => (.ofSet members, flags)
  | .shorthand kind negated =>
    (flags.shorthandSet? kind negated).map fun members => (.ofSet members, flags)
  | .bracketed negated contents => do
    let members ← flags.classSet? contents
    let members ← flags.negate? negated (flags.foldCase members)
    return (.ofSet members, flags)
  | .repetition least most greedy body => do
    let (body, after) ← ofNode? flags body
    return (.repeated least most (greedy != flags.swapGreed) body, after)
  | .group .capture body => do
    let (body, _) ← ofNode? flags body
    return (.capture body, flags)
  | .group (.flags change) body => do
    let (body, _) ← ofNode? (flags.apply change) body
    return (body, flags)
  | .alternation alternatives => do
    let (alternatives, after) ← ofNodes? flags alternatives
    return (.alternation alternatives, after)
  | .concatenation parts => do
    let (parts, after) ← ofNodes? flags parts
    return (.concatenation parts, after)

/-- The meanings of several patterns, each under the flags in force after the one before it. -/
def ofNodes? (flags : Flags) : List Node → Option (List Expression × Flags)
  | [] => some ([], flags)
  | node :: nodes => do
    let (first, after) ← ofNode? flags node
    let (rest, after) ← ofNodes? after nodes
    return (first :: rest, after)

end

end Expression

end Descent.Pattern
