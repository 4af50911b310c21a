set_option autoImplicit false

/-!
Documents of JSON and their text, in one line or over several.

Between quotes only the quote, the backslash and the control characters below the blank are
escaped; all other characters stand for themselves.
-/

namespace Descent

/-- A document. Numbers are whole. -/
inductive Json where
  | null
  | bool (value : Bool)
  | number (value : Int)
  | string (text : String)
  | array (items : List Json)
  | object (members : List (String × Json))

namespace Json

/-- The written form of one character between quotes. -/
def escaped (char : Char) : List Char :=
  if char = '"' then ['\\', '"']
  else if char = '\\' then ['\\', '\\']
  else if char = '\x08' then ['\\', 'b']
  else if char = '\x0C' then ['\\', 'f']
  else if char = '\n' then ['\\', 'n']
  else if char = '\r' then ['\\', 'r']
  else if char = '\t' then ['\\', 't']
  else if char.toNat < 0x20 then
    ['\\', 'u', '0', '0', Nat.digitChar (char.toNat / 16), Nat.digitChar (char.toNat % 16)]
  else [char]

/-- A text between quotes. -/
def quotedText (text : String) : String :=
  String.ofList ('"' :: text.toList.flatMap escaped ++ ['"'])

mutual

/-- The text of a document in one line, without blanks. -/
def compact : Json → String
  | .null => "null"
  | .bool true => "true"
  | .bool false => "false"
  | .number value => toString value
  | .string text => quotedText text
  | .array items => "[" ++ ",".intercalate (compactItems items) ++ "]"
  | .object members => "\x7b" ++ ",".intercalate (compactMembers members) ++ "\x7d"

/-- The texts of the items of an array. -/
def compactItems : List Json → List String
  | [] => []
  | item :: items => item.compact :: compactItems items

/-- The texts of the members of an object. -/
def compactMembers : List (String × Json) → List String
  | [] => []
  | (key, value) :: members => (quotedText key ++ ":" ++ value.compact) :: compactMembers members

end

/-- The start of a line at a depth: two blanks for each level. -/
def newLine (depth : Nat) : String := "\n" ++ "".pushn ' ' (2 * depth)

/-- Items in lines of their own between two brackets, or just the brackets if there are none. -/
def enclose (opening closing : String) (depth : Nat) : List String → String
  | [] => opening ++ closing
  | items =>
    opening ++ newLine (depth + 1) ++ ("," ++ newLine (depth + 1)).intercalate items ++
      newLine depth ++ closing

mutual

/-- The text of a document with every item in a line of its own, at a depth. -/
def prettyAt (depth : Nat) : Json → String
  | .array items => enclose "[" "]" depth (prettyItems (depth + 1) items)
  | .object members => enclose "\x7b" "\x7d" depth (prettyMembers (depth + 1) members)
  | .null => "null"
  | .bool true => "true"
  | .bool false => "false"
  | .number value => toString value
  | .string text => quotedText text

/-- The texts of the items of an array. -/
def prettyItems (depth : Nat) : List Json → List String
  | [] => []
  | item :: items => item.prettyAt depth :: prettyItems depth items

/-- The texts of the members of an object. -/
def prettyMembers (depth : Nat) : List (String × Json) → List String
  | [] => []
  | (key, value) :: members =>
    (quotedText key ++ ": " ++ value.prettyAt depth) :: prettyMembers depth members

end

/-- The text of a document with every item in a line of its own. -/
def pretty (document : Json) : String := document.prettyAt 0

end Json

end Descent
