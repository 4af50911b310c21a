import Descent.Pattern.Syntax
import Descent.Unicode.Category
import Descent.Unicode.Formats
import Descent.Unicode.Letters

set_option autoImplicit false

/-!
Reading the written form of a pattern.

The reader goes over the pattern once, from left to right. It gives nothing for a text that is no
pattern; which of several faults a text has is not told apart.
-/

namespace Descent.Pattern

/-- What the reader knows at a place in the pattern. -/
structure Input where
  /-- What has not been read. -/
  rest : List Char
  /-- Whether blanks and comments are skipped. -/
  ignoreBlanks : Bool
  /-- The names given to groups so far. -/
  names : List String

/-- A step of the reader, which may refuse. -/
abbrev Read := StateT Input Option

/-- Whether a character is a blank. -/
def isBlank (char : Char) : Bool := Unicode.whiteSpace.contains char.toNat

/-- Leaves out blanks, and comments from a number sign up to the end of the line. -/
def dropBlanks : (inComment : Bool) → List Char → List Char
  | _, [] => []
  | true, char :: rest => dropBlanks (char != '\n') rest
  | false, char :: rest =>
    if isBlank char then dropBlanks false rest
    else if char = '#' then dropBlanks true rest
    else char :: rest

namespace Read

/-- Gives up. -/
def refuse {α : Type} : Read α := fun _ => none

/-- Goes on only under a condition. -/
def require (condition : Bool) : Read Unit := if condition then pure () else refuse

/-- The next character, without moving. -/
def next? : Read (Option Char) := do return (← get).rest.head?

/-- The next character, which has to exist, without moving. -/
def next : Read Char := do
  match ← next? with
  | some char => pure char
  | none => refuse

/-- Moves over one character. -/
def move : Read Unit := modify fun input => { input with rest := input.rest.tail }

/-- Moves over blanks where they do not count. -/
def skipBlanks : Read Unit := modify fun input =>
  if input.ignoreBlanks then { input with rest := dropBlanks false input.rest } else input

/-- Moves over one character and the blanks after it. -/
def moveOn : Read Unit := do
  move
  skipBlanks

/-- As `moveOn`, but refuses at the end of the pattern. -/
def moveWithin : Read Unit := do
  moveOn
  let _ ← next

/-- Moves over the given text if it comes next, and tells whether it did. -/
def accept (text : String) : Read Bool := do
  let input ← get
  if text.toList.isPrefixOf input.rest then
    set { input with rest := input.rest.drop text.length }
    return true
  else return false

end Read

open Read

/-- Skips as `Read.skipBlanks` would after the next character, but without moving, to see what
follows. A comment counts as over at its first character that is not blank. -/
def blanksAhead (inComment : Bool) : List Char → Option Char
  | [] => none
  | char :: rest =>
    if isBlank char then blanksAhead inComment rest
    else if !inComment && char = '#' then blanksAhead true rest
    else some char

/-- The character after the next one, blanks between them left out where they do not count. -/
def Read.second? : Read (Option Char) := do
  let input ← get
  let after := input.rest.tail
  if input.ignoreBlanks then return (blanksAhead false after) <|> after.head?
  else return after.head?

/-- The characters with a meaning of their own. -/
def isSpecial (char : Char) : Bool := "\\.+*?()|[]\x7b\x7d^$#&-~".contains char

/-- Whether a backslash before a character makes it stand for itself. -/
def isEscapable (char : Char) : Bool :=
  isSpecial char || (char.toNat < 0x80 && !char.isAlphanum && char ≠ '<' && char ≠ '>')

/-- The value of a hexadecimal digit. -/
def hexValue? (char : Char) : Option Nat :=
  if char.isDigit then some (char.toNat - '0'.toNat)
  else if 'a' ≤ char ∧ char ≤ 'f' then some (char.toNat - 'a'.toNat + 10)
  else if 'A' ≤ char ∧ char ≤ 'F' then some (char.toNat - 'A'.toNat + 10)
  else none

/-- The character with a code point, if there is one. -/
def charOfCode? (code : Nat) : Option Char :=
  if code.isValidChar then some (.ofNat code) else none

/-- The next character as a hexadecimal digit, without moving. -/
def readHexDigit : Read Nat := do
  match hexValue? (← next) with
  | some digit => pure digit
  | none => refuse

/-- Exactly so many hexadecimal digits after the first one, which gave the number so far. -/
def readMoreHexDigits : Nat → Nat → Read Nat
  | 0, code => pure code
  | count + 1, code => do
    moveWithin
    let digit ← readHexDigit
    readMoreHexDigits count (code * 16 + digit)

/-- Hexadecimal digits up to a closing brace; at least one. -/
def readBracedHex : (fuel : Nat) → Option Nat → Read Nat
  | 0, _ => refuse
  | fuel + 1, code => do
    moveWithin
    if (← next) = '}' then
      moveOn
      match code with
      | some code => pure code
      | none => refuse
    else
      let digit ← readHexDigit
      readBracedHex fuel (some (code.getD 0 * 16 + digit))

/-- A character by its code point: `digits` hexadecimal digits, or any number of them in braces. -/
def readHex (digits : Nat) : Read Literal := do
  moveWithin
  let braced := (← next) = '{'
  let code ←
    if braced then readBracedHex ((← get).rest.length + 1) none
    else do
      let first ← readHexDigit
      let code ← readMoreHexDigits (digits - 1) first
      moveOn
      pure code
  match charOfCode? code with
  | some char => pure ⟨char, !braced && digits = 2⟩
  | none => refuse

/-- The characters up to a closing brace, blanks left out where they do not count. -/
def readBracedName : (fuel : Nat) → List Char → Read (List Char)
  | 0, _ => refuse
  | fuel + 1, name => do
    moveWithin
    let char ← next
    if char = '}' then
      move
      pure name.reverse
    else readBracedName fuel (char :: name)

/-- Cuts a text at the first place where a separator stands. -/
def cutAt? (separator : List Char) : List Char → Option (List Char × List Char)
  | [] => none
  | char :: rest =>
    if separator.isPrefixOf (char :: rest) then
      some ([], (char :: rest).drop separator.length)
    else (cutAt? separator rest).map fun (before, after) => (char :: before, after)

/-- A name alone, or a name and a value. -/
def PropertyQuery.ofName (name : List Char) : PropertyQuery :=
  match cutAt? ['!', '='] name <|> cutAt? [':'] name <|> cutAt? ['='] name with
  | some (before, after) => .valued (String.ofList before) (String.ofList after)
  | none => .named (String.ofList name)

/-- A property after `\p`: one letter, or a name in braces. -/
def readProperty : Read PropertyQuery := do
  moveWithin
  let char ← next
  if char = '{' then
    let name ← readBracedName ((← get).rest.length + 1) []
    return .ofName name
  else
    require (char ≠ '\\')
    moveOn
    return .named (String.ofList [char])

/-- Whether a character can stand in the name of a word boundary. -/
def isBoundaryNameChar (char : Char) : Bool := char.isAlpha || char = '-'

/-- Characters that can stand in the name of a word boundary, from the next one on. -/
def readBoundaryName : (fuel : Nat) → List Char → Read (List Char)
  | 0, _ => refuse
  | fuel + 1, name => do
    let char ← next
    if isBoundaryNameChar char then
      moveOn
      readBoundaryName fuel (char :: name)
    else pure name.reverse

/-- What follows `\b`: the name of a special word boundary in braces, or nothing that belongs to
it. -/
def readBoundary : Read Anchor := do
  if (← next?) = some '{' then
    let before ← get
    moveWithin
    if isBoundaryNameChar (← next) then
      let name ← readBoundaryName ((← get).rest.length + 1) []
      require ((← next) = '}')
      move
      match String.ofList name with
      | "start" => pure .wordStart
      | "end" => pure .wordEnd
      | "start-half" => pure .wordStartHalf
      | "end-half" => pure .wordEndHalf
      | _ => refuse
    else
      set before
      pure .wordBoundary
  else pure .wordBoundary

/-- What a backslash begins. -/
def readEscape : Read Node := do
  move
  let char ← next
  match char with
  | 'x' => return .literal (← readHex 2)
  | 'u' => return .literal (← readHex 4)
  | 'U' => return .literal (← readHex 8)
  | 'p' => return .property (← readProperty) false
  | 'P' => return .property (← readProperty) true
  | _ =>
    move
    match char with
    | 'd' => return .shorthand .digit false
    | 'D' => return .shorthand .digit true
    | 's' => return .shorthand .blank false
    | 'S' => return .shorthand .blank true
    | 'w' => return .shorthand .word false
    | 'W' => return .shorthand .word true
    | 'a' => return .literal ⟨'\x07', false⟩
    | 'f' => return .literal ⟨'\x0C', false⟩
    | 't' => return .literal ⟨'\t', false⟩
    | 'n' => return .literal ⟨'\n', false⟩
    | 'r' => return .literal ⟨'\r', false⟩
    | 'v' => return .literal ⟨'\x0B', false⟩
    | 'A' => return .anchor .textStart
    | 'z' => return .anchor .textEnd
    | 'b' => return .anchor (← readBoundary)
    | 'B' => return .anchor .notWordBoundary
    | '<' => return .anchor .wordStart
    | '>' => return .anchor .wordEnd
    | _ =>
      require (isEscapable char)
      return .literal ⟨char, false⟩

/-- One character or escape outside a class. -/
def readPrimitive : Read Node := do
  let char ← next
  if char = '\\' then readEscape
  else
    move
    match char with
    | '.' => return .dot
    | '^' => return .anchor .lineStart
    | '$' => return .anchor .lineEnd
    | _ => return .literal ⟨char, false⟩

/-- One character or escape inside a class. -/
def readClassPrimitive : Read Node := do
  let char ← next
  if char = '\\' then readEscape
  else
    move
    return .literal ⟨char, false⟩

/-- The item of a class that a primitive is. Tests of a place are none. -/
def ClassItem.ofNode? : Node → Option ClassItem
  | .literal written => some (.literal written)
  | .property query negated => some (.property query negated)
  | .shorthand kind negated => some (.shorthand kind negated)
  | _ => none

/-- One item of a class: a primitive, or two characters with a hyphen between them. -/
def readClassItem : Read ClassItem := do
  let first ← readClassPrimitive
  skipBlanks
  let char ← next
  let second ← second?
  if char ≠ '-' || second = some ']' || second = some '-' then
    match ClassItem.ofNode? first with
    | some item => pure item
    | none => refuse
  else
    moveWithin
    let last ← readClassPrimitive
    match first, last with
    | .literal first, .literal last =>
      require (first.char ≤ last.char)
      pure (.range first last)
    | _, _ => refuse

/-- The names of the classes of ASCII. -/
def asciiClassNames : List String :=
  ["alnum", "alpha", "ascii", "blank", "cntrl", "digit", "graph", "lower", "print", "punct",
    "space", "upper", "word", "xdigit"]

/-- Leaves out a caret that comes first, and tells whether one did. -/
def skipCaret : List Char → Bool × List Char
  | '^' :: rest => (true, rest)
  | rest => (false, rest)

/-- The name of a class of ASCII up to a colon and a bracket, and what comes after these. -/
def asciiClassName? (chars : List Char) : Option (String × List Char) :=
  match chars.dropWhile (· ≠ ':') with
  | ':' :: ']' :: after =>
    let name := String.ofList (chars.takeWhile (· ≠ ':'))
    if asciiClassNames.contains name then some (name, after) else none
  | _ => none

/-- A class of ASCII such as `[:alpha:]` or `[:^alpha:]`, if one comes next. -/
def readAsciiClass? : Read (Option ClassItem) := do
  let input ← get
  match input.rest with
  | '[' :: ':' :: rest =>
    let (negated, rest) := skipCaret rest
    match asciiClassName? rest with
    | some (name, after) =>
      set { input with rest := after }
      return some (.ascii name negated)
    | none => return none
  | _ => return none

/-- Hyphens at the start of a class, which stand for themselves. -/
def readLeadingHyphens : (fuel : Nat) → List ClassItem → Read (List ClassItem)
  | 0, _ => refuse
  | fuel + 1, items => do
    if (← next) = '-' then
      moveWithin
      readLeadingHyphens fuel (.literal ⟨'-', false⟩ :: items)
    else pure items

/-- The start of a class: whether it is negated, and the items that only stand there as they are. -/
def readClassStart : Read (Bool × List ClassItem) := do
  moveWithin
  let negated := (← next) = '^'
  if negated then moveWithin
  let items ← readLeadingHyphens ((← get).rest.length + 1) []
  if items.isEmpty && (← next) = ']' then
    moveWithin
    return (negated, [.literal ⟨']', false⟩])
  else return (negated, items)

/-- Several items, the last one first, as one. -/
def ClassItem.ofReversed : List ClassItem → ClassItem
  | [] => .empty
  | [item] => item
  | items => .union items.reverse

/-- The items read last, after what stood to the left of an operator. -/
def ClassSet.close (pending : Option (SetOperator × ClassSet)) (items : List ClassItem) :
    ClassSet :=
  match pending with
  | none => .item (.ofReversed items)
  | some (operator, left) => .operation operator left (.item (.ofReversed items))

mutual

/-- A bracketed class, from its opening bracket. -/
def readClass : (fuel : Nat) → Read (Bool × ClassSet)
  | 0 => refuse
  | fuel + 1 => do
    let (negated, items) ← readClassStart
    let set ← readClassItems fuel none items
    return (negated, set)

/-- The rest of a class, after an operator with its left side, and after items, the last first. -/
def readClassItems : (fuel : Nat) → Option (SetOperator × ClassSet) → List ClassItem →
    Read ClassSet
  | 0, _, _ => refuse
  | fuel + 1, pending, items => do
    skipBlanks
    let char ← next
    if char = ']' then
      move
      return .close pending items
    else if char = '[' then
      match ← readAsciiClass? with
      | some item => readClassItems fuel pending (item :: items)
      | none =>
        let (negated, set) ← readClass fuel
        readClassItems fuel pending (.bracketed negated set :: items)
    else if ← accept "&&" then
      readClassItems fuel (some (.intersection, .close pending items)) []
    else if ← accept "--" then
      readClassItems fuel (some (.difference, .close pending items)) []
    else if ← accept "~~" then
      readClassItems fuel (some (.symmetricDifference, .close pending items)) []
    else
      let item ← readClassItem
      readClassItems fuel pending (item :: items)

end

/-- The flag that a letter stands for. -/
def Flag.ofLetter? : Char → Option Flag
  | 'i' => some .ignoreCase
  | 'm' => some .multiLine
  | 's' => some .dotAll
  | 'U' => some .swapGreed
  | 'u' => some .unicode
  | 'R' => some .carriageReturn
  | 'x' => some .ignoreBlanks
  | _ => none

/-- Flags up to a colon or a closing parenthesis, where it stops. No flag comes twice, and a hyphen
comes once at most and not at the end. -/
def readFlags : (fuel : Nat) → (negating atHyphen : Bool) → FlagChange → Read FlagChange
  | 0, _, _, _ => refuse
  | fuel + 1, negating, atHyphen, change => do
    let char ← next
    if char = ':' || char = ')' then
      require !atHyphen
      return change.reverse
    else if char = '-' then
      require !negating
      move
      readFlags fuel true true change
    else
      match Flag.ofLetter? char with
      | none => refuse
      | some flag =>
        require (!change.any fun (other, _) => other = flag)
        move
        readFlags fuel negating false ((flag, !negating) :: change)

/-- The new value of one flag. -/
def FlagChange.value? (change : FlagChange) (flag : Flag) : Option Bool :=
  (change.find? fun (other, _) => other = flag).map Prod.snd

/-- Whether a character can stand in the name of a group. -/
def isNameChar (first : Bool) (char : Char) : Bool :=
  let letter := Unicode.alphabetic.contains char.toNat
  char = '_' || letter ||
    (!first && (".[]".contains char ||
      ["Nd", "Nl", "No"].contains (Unicode.generalCategory.valueAt char.toNat)))

/-- The name of a group, up to `>`. No two groups have one name. -/
def readGroupName : Read Unit := do
  let input ← get
  let name := input.rest.takeWhile (· ≠ '>')
  match name, input.rest.dropWhile (· ≠ '>') with
  | first :: more, _ :: after =>
    require (isNameChar true first && more.all (isNameChar false))
    require (!input.names.contains (String.ofList name))
    set { input with rest := after, names := String.ofList name :: input.names }
  | _, _ => refuse

/-- What would look ahead or behind if it stood after an opening parenthesis. -/
def lookAroundMarks : List String := ["?=", "?!", "?<=", "?<!"]

/-- The mark of a group with a name, if it comes next. -/
def acceptNameMark : Read Bool := do
  if ← accept "?P<" then return true else accept "?<"

/-- A group from its opening parenthesis, given how to read up to its end; or flags for the rest of
the enclosing group. -/
def readGroup (readBody : Read Node) : Read Node := do
  moveOn
  let rest := (← get).rest
  require (lookAroundMarks.all fun mark => !mark.toList.isPrefixOf rest)
  let outer := (← get).ignoreBlanks
  if ← acceptNameMark then
    readGroupName
    let body ← readBody
    modify fun input => { input with ignoreBlanks := outer }
    return .group .capture body
  else if ← accept "?" then
    let change ← readFlags ((← get).rest.length + 1) false false []
    let directive := (← next) = ')'
    move
    let ignoreBlanks := (change.value? .ignoreBlanks).getD outer
    modify fun input => { input with ignoreBlanks }
    if directive then
      require !change.isEmpty
      return .flags change
    else
      let body ← readBody
      modify fun input => { input with ignoreBlanks := outer }
      return .group (.flags change) body
  else
    let body ← readBody
    modify fun input => { input with ignoreBlanks := outer }
    return .group .capture body

/-- A question mark that makes a repetition lazy, if it comes next. -/
def readGreed : Read Bool := do return !(← accept "?")

/-- The last part read, which an operator of repetition needs. -/
def repeatable : List Node → Read (Node × List Node)
  | [] => refuse
  | .empty :: _ => refuse
  | .flags _ :: _ => refuse
  | node :: rest => pure (node, rest)

/-- Digits of a number, blanks after each left out where they do not count. -/
def readDigits : (fuel : Nat) → Option Nat → Read (Option Nat)
  | 0, _ => refuse
  | fuel + 1, number => do
    match ← next? with
    | some char =>
      if char.isDigit then
        moveOn
        readDigits fuel (some (number.getD 0 * 10 + (char.toNat - '0'.toNat)))
      else pure number
    | none => pure number

/-- Moves over blanks, whether they count or not. -/
def skipAllBlanks : Read Unit :=
  modify fun input => { input with rest := input.rest.dropWhile isBlank }

/-- Moves over blanks, and over comments where these do not count. -/
def skipTrailingBlanks : (fuel : Nat) → Read Unit
  | 0 => refuse
  | fuel + 1 => do
    match ← next? with
    | some char =>
      if isBlank char then
        moveOn
        skipTrailingBlanks fuel
      else pure ()
    | none => pure ()

/-- The greatest count of repetitions. -/
def greatestCount : Nat := UInt32.size - 1

/-- A decimal number with blanks around it; nothing, if there are no digits. -/
def readCount : Read (Option Nat) := do
  skipAllBlanks
  let fuel := (← get).rest.length + 1
  let number ← readDigits fuel none
  skipTrailingBlanks fuel
  match number with
  | some number =>
    require (number ≤ greatestCount)
    return some number
  | none => return none

/-- A count that must be there. -/
def readNeededCount : Read Nat := do
  match ← readCount with
  | some number => pure number
  | none => refuse

/-- Counts of repetition, from their opening brace. -/
def readCounts : Read (Nat × Option Nat × Bool) := do
  moveWithin
  let least ← readNeededCount
  let most ←
    if (← next) = ',' then do
      moveWithin
      if (← next) = '}' then pure none
      else some <$> readNeededCount
    else pure (some least)
  require ((← next) = '}')
  moveOn
  let greedy ← readGreed
  require (most.all fun most => least ≤ most)
  return (least, most, greedy)

/-- Parts in sequence, the last one first, as one node. -/
def Node.ofReversedParts : List Node → Node
  | [] => .empty
  | [node] => node
  | nodes => .concatenation nodes.reverse

/-- Alternatives, the last one first, as one node. -/
def Node.ofReversedAlternatives : List Node → Node
  | [] => .empty
  | [node] => node
  | nodes => .alternation nodes.reverse

/-- Reads up to the end of the pattern or of a group, given the alternatives and the parts of the
last one that were read before, each the last first. -/
def readNodes : (fuel : Nat) → (inGroup : Bool) → (alternatives parts : List Node) → Read Node
  | 0, _, _, _ => refuse
  | fuel + 1, inGroup, alternatives, parts => do
    skipBlanks
    let finish := Node.ofReversedAlternatives (.ofReversedParts parts :: alternatives)
    match ← next? with
    | none =>
      require !inGroup
      return finish
    | some ')' =>
      require inGroup
      move
      return finish
    | some '|' =>
      move
      readNodes fuel inGroup (.ofReversedParts parts :: alternatives) []
    | some '(' =>
      let group ← readGroup (readNodes fuel true [] [])
      readNodes fuel inGroup alternatives (group :: parts)
    | some '[' =>
      let (negated, set) ← readClass fuel
      readNodes fuel inGroup alternatives (.bracketed negated set :: parts)
    | some '?' =>
      let (node, parts) ← repeatable parts
      move
      let greedy ← readGreed
      readNodes fuel inGroup alternatives (.repetition 0 (some 1) greedy node :: parts)
    | some '*' =>
      let (node, parts) ← repeatable parts
      move
      let greedy ← readGreed
      readNodes fuel inGroup alternatives (.repetition 0 none greedy node :: parts)
    | some '+' =>
      let (node, parts) ← repeatable parts
      move
      let greedy ← readGreed
      readNodes fuel inGroup alternatives (.repetition 1 none greedy node :: parts)
    | some '{' =>
      let (node, parts) ← repeatable parts
      let (least, most, greedy) ← readCounts
      readNodes fuel inGroup alternatives (.repetition least most greedy node :: parts)
    | some _ =>
      let node ← readPrimitive
      readNodes fuel inGroup alternatives (node :: parts)

/-- The greatest depth to which a pattern may be nested. -/
def nestingLimit : Nat := 250

/-- Reads a whole pattern, with blanks that count or not at its start. -/
def Node.read? (ignoreBlanks : Bool) (source : String) : Option Node :=
  match readNodes (2 * source.length + 2) false [] [] ⟨source.toList, ignoreBlanks, []⟩ with
  | some (node, _) => if node.nesting ≤ nestingLimit then some node else none
  | none => none

end Descent.Pattern
