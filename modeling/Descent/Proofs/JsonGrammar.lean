import Descent.Json

set_option autoImplicit false

/-!
The grammar of documents.

A document is written as a sequence of tokens with blanks between them. The tokens are determined by
the document, but not their spelling: characters between quotes may be escaped, and a number may have
a fraction and an exponent. Still a text is the writing of one document at most (`Writes.unique`).
What it spells can be told from left to right, because no two tokens begin alike and every token shows
where it ends; and so can the document from its tokens.
-/

namespace Descent.Json

/-- The parts of a document as it is written. -/
inductive Token where
  | openArray
  | closeArray
  | openObject
  | closeObject
  | comma
  | colon
  | null
  | bool (value : Bool)
  | number (value : Int)
  | string (text : String)

mutual

/-- The tokens of a document. -/
def tokens : Json → List Token
  | .null => [.null]
  | .bool value => [.bool value]
  | .number value => [.number value]
  | .string text => [.string text]
  | .array items => .openArray :: ([.comma].intercalate (tokensOfItems items) ++ [.closeArray])
  | .object members =>
    .openObject :: ([.comma].intercalate (tokensOfMembers members) ++ [.closeObject])

def tokensOfItems : List Json → List (List Token)
  | [] => []
  | item :: items => item.tokens :: tokensOfItems items

def tokensOfMembers : List (String × Json) → List (List Token)
  | [] => []
  | (key, value) :: members => (.string key :: .colon :: value.tokens) :: tokensOfMembers members

end

/-- What holds of a document if it holds of its items or the values of its members holds of all. -/
theorem induction {motive : Json → Prop} (null : motive .null)
    (bool : ∀ value, motive (.bool value)) (number : ∀ value, motive (.number value))
    (string : ∀ text, motive (.string text))
    (array : ∀ items, (∀ item ∈ items, motive item) → motive (.array items))
    (object : ∀ members, (∀ member ∈ members, motive member.2) → motive (.object members))
    (document : Json) : motive document :=
  @Json.rec motive (fun items => ∀ item ∈ items, motive item)
    (fun members => ∀ member ∈ members, motive member.2) (fun member => motive member.2)
    null bool number string array object nofun
    (fun _ _ first rest => List.forall_mem_cons.mpr ⟨first, rest⟩) nofun
    (fun _ _ first rest => List.forall_mem_cons.mpr ⟨first, rest⟩) (fun _ _ value => value) document

theorem tokensOfItems_eq_map (items : List Json) : tokensOfItems items = items.map tokens := by
  induction items with
  | nil => rfl
  | cons item items ih => rw [tokensOfItems, ih, List.map_cons]

def memberTokens (member : String × Json) : List Token :=
  .string member.1 :: .colon :: member.2.tokens

theorem tokensOfMembers_eq_map (members : List (String × Json)) :
    tokensOfMembers members = members.map memberTokens := by
  induction members with
  | nil => rfl
  | cons member members ih =>
    obtain ⟨key, value⟩ := member
    rw [tokensOfMembers, ih, List.map_cons]
    rfl

/-! ## Documents from tokens -/

/-- What is written can be told apart, whatever follows it. -/
def ReadBack {α β : Type} (write : α → List β) (item : α) : Prop :=
  ∀ (other : α) (rest rest' : List β), write item ++ rest = write other ++ rest' →
    item = other ∧ rest = rest'

section

variable {α : Type} (write : α → List Token) (closing : Token)

/-- What follows the first of several items up to the closing bracket, and after it. -/
def following : List α → List Token → List Token
  | [], rest => closing :: rest
  | item :: items, rest => .comma :: (write item ++ following items rest)

theorem intercalate_append_closing (item : α) (items : List α) (rest : List Token) :
    [.comma].intercalate ((item :: items).map write) ++ closing :: rest =
      write item ++ following write closing items rest := by
  induction items generalizing item with
  | nil => simp [following]
  | cons next items ih =>
    have others := ih next
    simp only [List.map_cons] at others ⊢
    simp [List.intercalate_cons_cons, others, following]

variable {write closing}

theorem following_readBack (parts : closing ≠ .comma) {items others : List α}
    {rest rest' : List Token} (reads : ∀ item ∈ items, ReadBack write item)
    (same : following write closing items rest = following write closing others rest') :
    items = others ∧ rest = rest' := by
  induction items generalizing others with
  | nil =>
    cases others with
    | nil => exact ⟨rfl, (List.cons.inj same).2⟩
    | cons other others => exact absurd (List.cons.inj same).1 parts
  | cons item items ih =>
    cases others with
    | nil => exact absurd (List.cons.inj same).1.symm parts
    | cons other others =>
      obtain ⟨first, others_read⟩ := List.forall_mem_cons.mp reads
      obtain ⟨rfl, after⟩ := first other _ _ (List.cons.inj same).2
      obtain ⟨rfl, rfl⟩ := ih others_read after
      exact ⟨rfl, rfl⟩

/-- Items with commas between them and a bracket after them, which no item begins with. -/
theorem separated_readBack (parts : closing ≠ .comma)
    (opens : ∀ item rest rest', write item ++ rest ≠ closing :: rest') {items others : List α}
    {rest rest' : List Token} (reads : ∀ item ∈ items, ReadBack write item)
    (same : [.comma].intercalate (items.map write) ++ closing :: rest =
      [.comma].intercalate (others.map write) ++ closing :: rest') :
    items = others ∧ rest = rest' := by
  cases items with
  | nil =>
    cases others with
    | nil => exact ⟨rfl, (List.cons.inj same).2⟩
    | cons other others =>
      rw [intercalate_append_closing] at same
      exact absurd same.symm (opens other _ _)
  | cons item items =>
    cases others with
    | nil =>
      rw [intercalate_append_closing] at same
      exact absurd same (opens item _ _)
    | cons other others =>
      rw [intercalate_append_closing, intercalate_append_closing] at same
      obtain ⟨first, others_read⟩ := List.forall_mem_cons.mp reads
      obtain ⟨rfl, after⟩ := first other _ _ same
      obtain ⟨rfl, rfl⟩ := following_readBack parts others_read after
      exact ⟨rfl, rfl⟩

end

theorem tokens_append_ne_closeArray (document : Json) (rest rest' : List Token) :
    document.tokens ++ rest ≠ .closeArray :: rest' := by
  cases document <;> simp [tokens]

theorem memberTokens_readBack {member : String × Json} (value : ReadBack tokens member.2) :
    ReadBack memberTokens member := by
  intro other rest rest' same
  obtain ⟨key, document⟩ := member
  obtain ⟨key', document'⟩ := other
  obtain ⟨keys, values⟩ := List.cons.inj same
  obtain ⟨rfl, after⟩ := value document' rest rest' (List.cons.inj values).2
  cases keys
  exact ⟨rfl, after⟩

/-- The tokens of a document are those of no other. -/
theorem tokens_readBack (document : Json) : ReadBack tokens document := by
  induction document using Json.induction with
  | null | bool _ | number _ | string _ =>
    intro other rest rest' same
    cases other <;> simp_all [tokens]
  | array items ih =>
    intro other rest rest' same
    cases other with
    | array others =>
      simp only [tokens, tokensOfItems_eq_map, List.cons_append, List.append_assoc, List.nil_append,
        List.cons.injEq, true_and] at same
      have parts : Token.closeArray ≠ .comma := nofun
      obtain ⟨rfl, after⟩ := separated_readBack parts tokens_append_ne_closeArray ih same
      exact ⟨rfl, after⟩
    | _ => simp [tokens] at same
  | object members ih =>
    intro other rest rest' same
    cases other with
    | object others =>
      simp only [tokens, tokensOfMembers_eq_map, List.cons_append, List.append_assoc,
        List.nil_append, List.cons.injEq, true_and] at same
      have reads (member : String × Json) (listed : member ∈ members) :
          ReadBack memberTokens member := memberTokens_readBack (ih member listed)
      have parts : Token.closeObject ≠ .comma := nofun
      obtain ⟨rfl, after⟩ := separated_readBack parts (by simp [memberTokens]) reads same
      exact ⟨rfl, after⟩
    | _ => simp [tokens] at same

/-! ## Numerals -/

/-- At least one digit. -/
def Digits (digits : List Char) : Prop := digits ≠ [] ∧ ∀ char ∈ digits, char.isDigit = true

inductive Fraction : List Char → Prop where
  | none : Fraction []
  | some {digits : List Char} : Digits digits → Fraction ('.' :: digits)

inductive Exponent : List Char → Prop where
  | none : Exponent []
  | some {letter : Char} {sign digits : List Char} : letter = 'e' ∨ letter = 'E' →
      sign = [] ∨ sign = ['+'] ∨ sign = ['-'] → Digits digits →
      Exponent (letter :: (sign ++ digits))

/-- A numeral. The whole part begins with a zero only if it is zero. -/
inductive Numeral : List Char → Prop where
  | mk {sign whole fraction exponent : List Char} : sign = [] ∨ sign = ['-'] → Digits whole →
      (whole.head? = some '0' → whole = ['0']) → Fraction fraction → Exponent exponent →
      Numeral (sign ++ (whole ++ (fraction ++ exponent)))

def signedValue : List Char → Int
  | '-' :: digits => -(Nat.ofDigitChars 10 digits 0 : Int)
  | '+' :: digits => Nat.ofDigitChars 10 digits 0
  | digits => Nat.ofDigitChars 10 digits 0

/-- A number times a power of ten, if that is whole. -/
def scaled? (value exponent : Int) : Option Int :=
  let factor := Int.pow 10 exponent.natAbs
  if 0 ≤ exponent then some (value * factor)
  else if value % factor = 0 then some (value / factor)
  else none

/-- The number that a numeral stands for, if it is whole. -/
def numeralValue? (numeral : List Char) : Option Int :=
  let (mantissa, exponent) := numeral.span fun char => char != 'e' && char != 'E'
  let (whole, fraction) := mantissa.span (· != '.')
  scaled? (signedValue (whole ++ fraction.drop 1))
    (signedValue (exponent.drop 1) - (fraction.drop 1).length)

def isNumeralChar (char : Char) : Bool :=
  char.isDigit || ['-', '+', '.', 'e', 'E'].contains char

theorem Digits.isNumeralChar {digits : List Char} (all : Digits digits) :
    ∀ char ∈ digits, isNumeralChar char = true := by
  intro char member
  simp [Json.isNumeralChar, all.2 char member]

theorem Numeral.isNumeralChar {numeral : List Char} (written : Numeral numeral) :
    ∀ char ∈ numeral, isNumeralChar char = true := by
  obtain ⟨sign, whole, _, fraction, exponent⟩ := written
  simp only [List.forall_mem_append]
  refine ⟨?_, whole.isNumeralChar, ?_, ?_⟩
  · rcases sign with rfl | rfl <;> simp [Json.isNumeralChar]
  · cases fraction with
    | none => nofun
    | some digits => exact List.forall_mem_cons.mpr ⟨rfl, digits.isNumeralChar⟩
  · cases exponent with
    | none => nofun
    | some letter sign digits =>
      refine List.forall_mem_cons.mpr ⟨?_, List.forall_mem_append.mpr ⟨?_, digits.isNumeralChar⟩⟩
      · rcases letter with rfl | rfl <;> rfl
      · rcases sign with rfl | rfl | rfl <;> simp [Json.isNumeralChar]

theorem Numeral.head {numeral : List Char} (written : Numeral numeral) :
    ∃ char rest, numeral = char :: rest ∧ (char = '-' ∨ char.isDigit = true) := by
  obtain ⟨sign, ⟨nonempty, digits⟩, _, _, _⟩ := written
  rcases sign with rfl | rfl
  · obtain ⟨char, others, rfl⟩ := List.exists_cons_of_ne_nil nonempty
    exact ⟨char, _, rfl, .inr (digits char (by simp))⟩
  · exact ⟨'-', _, rfl, .inl rfl⟩

/-! ## Texts between quotes -/

/-- The letters after a backslash, each with the character that it stands for. -/
def shortEscapes : List (Char × Char) :=
  [('"', '"'), ('\\', '\\'), ('/', '/'), ('b', '\x08'), ('f', '\x0C'), ('n', '\n'), ('r', '\r'),
    ('t', '\t')]

def hexDigit? (char : Char) : Option Nat :=
  if char.isDigit then some (char.toNat - 48)
  else if 'a' ≤ char ∧ char ≤ 'f' then some (char.toNat - 87)
  else if 'A' ≤ char ∧ char ≤ 'F' then some (char.toNat - 55)
  else none

/-- The unit of UTF-16 that four hexadecimal digits stand for. -/
def codeUnit? : List Char → Option Nat
  | [first, second, third, fourth] => do
    return 4096 * (← hexDigit? first) + 256 * (← hexDigit? second) + 16 * (← hexDigit? third) +
      (← hexDigit? fourth)
  | _ => none

/-- A character as its code: one unit, or two for a character beyond the codes of one. -/
inductive Coded : Char → List Char → Prop where
  | unit {char : Char} {digits : List Char} : codeUnit? digits = some char.toNat → Coded char digits
  | pair {char : Char} {high low : Nat} {digits digits' : List Char} :
      codeUnit? digits = some (0xD800 + high) → codeUnit? digits' = some (0xDC00 + low) →
      high < 0x400 → low < 0x400 → char.toNat = 0x10000 + 0x400 * high + low →
      Coded char (digits ++ '\\' :: 'u' :: digits')

/-- One character between quotes. -/
inductive Written : Char → List Char → Prop where
  | plain {char : Char} : char ≠ '"' → char ≠ '\\' → 0x20 ≤ char.toNat → Written char [char]
  | short {letter char : Char} : (letter, char) ∈ shortEscapes → Written char ['\\', letter]
  | coded {char : Char} {code : List Char} : Coded char code → Written char ('\\' :: 'u' :: code)

inductive WrittenAll : List Char → List Char → Prop where
  | nil : WrittenAll [] []
  | cons {char : Char} {chars written rest : List Char} :
      Written char written → WrittenAll chars rest → WrittenAll (char :: chars) (written ++ rest)

theorem length_of_codeUnit? {digits : List Char} {code : Nat}
    (unit : codeUnit? digits = some code) : digits.length = 4 := by
  unfold codeUnit? at unit
  split at unit
  · rfl
  · contradiction

theorem codeUnit?_append_inj {digits digits' rest rest' : List Char} {code code' : Nat}
    (unit : codeUnit? digits = some code) (unit' : codeUnit? digits' = some code')
    (same : digits ++ rest = digits' ++ rest') : code = code' ∧ rest = rest' := by
  have lengths : digits.length = digits'.length :=
    (length_of_codeUnit? unit).trans (length_of_codeUnit? unit').symm
  obtain ⟨rfl, rfl⟩ := List.append_inj same lengths
  exact ⟨Option.some.inj (unit.symm.trans unit'), rfl⟩

/-- The first unit of a pair is the code of no character. -/
theorem not_surrogate (char : Char) {unit : Nat} (small : unit < 0x400) :
    char.toNat ≠ 0xD800 + unit := by
  have valid : char.toNat.isValidChar := char.valid
  simp only [Nat.isValidChar] at valid
  omega

theorem shortEscapes_inj {letter char char' : Char} (short : (letter, char) ∈ shortEscapes)
    (short' : (letter, char') ∈ shortEscapes) : char = char' := by
  have functional : ∀ first ∈ shortEscapes, ∀ second ∈ shortEscapes,
      first.1 = second.1 → first.2 = second.2 := by decide
  exact functional _ short _ short' rfl

theorem Coded.unique {char char' : Char} {code code' rest rest' : List Char}
    (one : Coded char code) (two : Coded char' code') (same : code ++ rest = code' ++ rest') :
    char = char' ∧ rest = rest' := by
  cases one with
  | unit unit =>
    cases two with
    | unit unit' =>
      obtain ⟨codes, rfl⟩ := codeUnit?_append_inj unit unit' same
      exact ⟨Char.toNat_inj.mp codes, rfl⟩
    | pair high _ small _ _ =>
      rw [List.append_assoc] at same
      obtain ⟨codes, _⟩ := codeUnit?_append_inj unit high same
      exact absurd codes (not_surrogate char small)
  | pair high low small _ value =>
    rw [List.append_assoc] at same
    cases two with
    | unit unit' =>
      obtain ⟨codes, _⟩ := codeUnit?_append_inj high unit' same
      exact absurd codes.symm (not_surrogate char' small)
    | pair high' low' _ _ value' =>
      rw [List.append_assoc] at same
      obtain ⟨highs, same⟩ := codeUnit?_append_inj high high' same
      simp only [List.cons_append, List.cons.injEq, true_and] at same
      obtain ⟨lows, rfl⟩ := codeUnit?_append_inj low low' same
      exact ⟨Char.toNat_inj.mp (by omega), rfl⟩

theorem Written.unique {char char' : Char} {written written' rest rest' : List Char}
    (one : Written char written) (two : Written char' written')
    (same : written ++ rest = written' ++ rest') : char = char' ∧ rest = rest' := by
  -- What a backslash begins is told by the letter after it.
  have noShort (char : Char) : ('u', char) ∉ shortEscapes := by simp [shortEscapes]
  cases one with
  | plain _ unescaped _ =>
    cases two with
    | plain _ _ _ => simpa using same
    | _ => exact absurd (List.cons.inj same).1 unescaped
  | short short =>
    cases two with
    | plain _ unescaped _ => exact absurd (List.cons.inj same).1.symm unescaped
    | short short' =>
      obtain ⟨rfl, rfl⟩ := List.cons.inj (List.cons.inj same).2
      exact ⟨shortEscapes_inj short short', rfl⟩
    | coded _ =>
      obtain ⟨rfl, _⟩ := List.cons.inj (List.cons.inj same).2
      exact absurd short (noShort _)
  | coded coded =>
    cases two with
    | plain _ unescaped _ => exact absurd (List.cons.inj same).1.symm unescaped
    | short short' =>
      obtain ⟨rfl, _⟩ := List.cons.inj (List.cons.inj same).2
      exact absurd short' (noShort _)
    | coded coded' => exact coded.unique coded' (List.cons.inj (List.cons.inj same).2).2

theorem Written.append_ne_quote {char : Char} {written : List Char} (one : Written char written)
    (rest rest' : List Char) : written ++ rest ≠ '"' :: rest' := by
  cases one with
  | plain unquoted _ _ => exact fun same => unquoted (List.cons.inj same).1
  | _ => simp

theorem WrittenAll.unique {chars chars' written written' rest rest' : List Char}
    (one : WrittenAll chars written) (two : WrittenAll chars' written')
    (same : written ++ '"' :: rest = written' ++ '"' :: rest') : chars = chars' ∧ rest = rest' := by
  induction one generalizing chars' written' with
  | nil =>
    cases two with
    | nil => exact ⟨rfl, (List.cons.inj same).2⟩
    | cons first _ =>
      rw [List.append_assoc] at same
      exact absurd same.symm (first.append_ne_quote _ _)
  | cons first _ ih =>
    cases two with
    | nil =>
      rw [List.append_assoc] at same
      exact absurd same (first.append_ne_quote _ _)
    | cons first' others' =>
      rw [List.append_assoc, List.append_assoc] at same
      obtain ⟨rfl, after⟩ := first.unique first' same
      obtain ⟨rfl, rfl⟩ := ih others' after
      exact ⟨rfl, rfl⟩

/-! ## Tokens -/

/-- The spelling of a token that is always spelled in the same way. -/
def Token.fixed? : Token → Option (List Char)
  | .openArray => some ['[']
  | .closeArray => some [']']
  | .openObject => some ['\x7b']
  | .closeObject => some ['\x7d']
  | .comma => some [',']
  | .colon => some [':']
  | .null => some ['n', 'u', 'l', 'l']
  | .bool true => some ['t', 'r', 'u', 'e']
  | .bool false => some ['f', 'a', 'l', 's', 'e']
  | .number _ | .string _ => none

/-- A numeral that ends before anything that could belong to it. -/
def Token.Ends : Token → List Char → Prop
  | .number _, rest => ∀ char ∈ rest.head?, isNumeralChar char = false
  | _, _ => True

inductive Token.Spelled : Token → List Char → Prop where
  | fixed {token : Token} {word : List Char} : token.fixed? = some word → Spelled token word
  | number {value : Int} {numeral : List Char} :
      Numeral numeral → numeralValue? numeral = some value → Spelled (.number value) numeral
  | string {chars written : List Char} :
      WrittenAll chars written → Spelled (.string (String.ofList chars)) ('"' :: (written ++ ['"']))

/-- The token without its number or text. -/
def Token.kind : Token → Token
  | .number _ => .number 0
  | .string _ => .string ""
  | token => token

/-- The kind of the tokens that begin with a character. -/
def Token.kindOf? : Char → Option Token
  | '[' => some .openArray
  | ']' => some .closeArray
  | '\x7b' => some .openObject
  | '\x7d' => some .closeObject
  | ',' => some .comma
  | ':' => some .colon
  | 'n' => some .null
  | 't' => some (.bool true)
  | 'f' => some (.bool false)
  | '"' => some (.string "")
  | char => if char = '-' || char.isDigit then some (.number 0) else none

theorem Token.kindOf?_of_isDigit {char : Char} (digit : char.isDigit = true) :
    Token.kindOf? char = some (.number 0) := by
  fun_cases Token.kindOf? char with
  | case11 => rfl
  | case12 => simp_all
  | _ => exact absurd digit (by decide)

theorem Token.kind_of_fixed? {token : Token} {word : List Char}
    (fixed : token.fixed? = some word) : token.kind = token := by
  cases token with
  | number value => contradiction
  | string text => contradiction
  | _ => rfl

theorem Token.eq_of_kind_eq {token token' : Token} {word : List Char}
    (fixed : token.fixed? = some word) (kinds : token'.kind = token.kind) : token' = token := by
  rw [Token.kind_of_fixed? fixed] at kinds
  subst kinds
  cases token' with
  | number value => contradiction
  | string text => contradiction
  | _ => rfl

theorem Token.Spelled.head {token : Token} {word : List Char} (spelled : token.Spelled word) :
    ∃ char rest, word = char :: rest ∧ Token.kindOf? char = some token.kind := by
  cases spelled with
  | fixed fixed =>
    cases token with
    | bool value => cases value <;> cases fixed <;> exact ⟨_, _, rfl, rfl⟩
    | number value => contradiction
    | string text => contradiction
    | _ =>
      cases fixed
      exact ⟨_, _, rfl, rfl⟩
  | number numeral _ =>
    obtain ⟨char, rest, rfl, minus | digit⟩ := numeral.head
    · exact ⟨char, rest, rfl, by rw [minus]; rfl⟩
    · exact ⟨char, rest, rfl, Token.kindOf?_of_isDigit digit⟩
  | string _ => exact ⟨'"', _, rfl, rfl⟩

/-- Characters of one sort, up to the first that is not of it. -/
theorem span_append_inj {sort : Char → Bool} {run run' rest rest' : List Char}
    (all : ∀ char ∈ run, sort char = true) (all' : ∀ char ∈ run', sort char = true)
    (stops : ∀ char ∈ rest.head?, sort char = false)
    (stops' : ∀ char ∈ rest'.head?, sort char = false) (same : run ++ rest = run' ++ rest') :
    run = run' ∧ rest = rest' := by
  induction run generalizing run' with
  | nil =>
    cases run' with
    | nil => exact ⟨rfl, same⟩
    | cons char run' =>
      subst same
      have first := all' char (by simp)
      simp [stops char (by simp)] at first
  | cons char run ih =>
    cases run' with
    | nil =>
      subst same
      have first := all char (by simp)
      simp [stops' char (by simp)] at first
    | cons char' run' =>
      obtain ⟨rfl, after⟩ := List.cons.inj same
      obtain ⟨rfl, rfl⟩ := ih (List.forall_mem_cons.mp all).2 (List.forall_mem_cons.mp all').2 after
      exact ⟨rfl, rfl⟩

theorem Token.Spelled.unique {token token' : Token} {word word' rest rest' : List Char}
    (one : token.Spelled word) (two : token'.Spelled word') (ends : token.Ends rest)
    (ends' : token'.Ends rest') (same : word ++ rest = word' ++ rest') :
    token = token' ∧ rest = rest' := by
  -- The first character shows the kind, so that only tokens of one kind are left to compare.
  have kinds : token.kind = token'.kind := by
    obtain ⟨char, _, rfl, starts⟩ := one.head
    obtain ⟨char', _, rfl, starts'⟩ := two.head
    obtain ⟨rfl, _⟩ := List.cons.inj same
    exact Option.some.inj (starts.symm.trans starts')
  cases one with
  | fixed fixed =>
    obtain rfl := Token.eq_of_kind_eq fixed kinds.symm
    cases two with
    | fixed fixed' =>
      cases fixed.symm.trans fixed'
      exact ⟨rfl, List.append_cancel_left same⟩
    | _ => contradiction
  | number numeral value =>
    cases two with
    | fixed fixed' =>
      cases Token.eq_of_kind_eq fixed' kinds
      contradiction
    | number numeral' value' =>
      -- Neither numeral could go on, so both are all that belongs to a numeral here.
      obtain ⟨rfl, rfl⟩ :=
        span_append_inj numeral.isNumeralChar numeral'.isNumeralChar ends ends' same
      cases value.symm.trans value'
      exact ⟨rfl, rfl⟩
    | string _ => contradiction
  | string written =>
    cases two with
    | fixed fixed' =>
      cases Token.eq_of_kind_eq fixed' kinds
      contradiction
    | number _ _ => contradiction
    | string written' =>
      simp only [List.cons_append, List.append_assoc, List.nil_append, List.cons.injEq,
        true_and] at same
      obtain ⟨rfl, rfl⟩ := written.unique written' same
      exact ⟨rfl, rfl⟩

/-! ## Tokens with blanks between them -/

def isBlank (char : Char) : Bool := [' ', '\n', '\r', '\t'].contains char

theorem isBlank_iff {char : Char} :
    isBlank char = true ↔ char = ' ' ∨ char = '\n' ∨ char = '\r' ∨ char = '\t' := by
  simp [isBlank]

theorem isNumeralChar_of_isBlank {char : Char} (blank : isBlank char = true) :
    isNumeralChar char = false := by
  rcases isBlank_iff.mp blank with rfl | rfl | rfl | rfl
  all_goals rfl

def Blank (gap : List Char) : Prop := ∀ char ∈ gap, isBlank char = true

theorem Blank.nil : Blank [] := nofun

theorem Blank.cons {char : Char} {gap : List Char} (first : isBlank char = true)
    (rest : Blank gap) : Blank (char :: gap) :=
  List.forall_mem_cons.mpr ⟨first, rest⟩

theorem Blank.append {gap gap' : List Char} (one : Blank gap) (two : Blank gap') :
    Blank (gap ++ gap') :=
  List.forall_mem_append.mpr ⟨one, two⟩

/-- The text consists of the tokens, with blanks before each and after the last. -/
inductive Spells : List Token → List Char → Prop where
  | done {gap : List Char} : Blank gap → Spells [] gap
  | token {gap word rest : List Char} {token : Token} {tokens : List Token} : Blank gap →
      token.Spelled word → token.Ends rest → Spells tokens rest →
      Spells (token :: tokens) (gap ++ (word ++ rest))

theorem Token.Spelled.not_blank {token : Token} {word : List Char} (spelled : token.Spelled word)
    (rest : List Char) : ∀ char ∈ (word ++ rest).head?, isBlank char = false := by
  obtain ⟨char, others, rfl, starts⟩ := spelled.head
  intro first head
  obtain rfl : char = first := by simpa using head
  cases blank : isBlank char with
  | false => rfl
  | true =>
    rcases isBlank_iff.mp blank with rfl | rfl | rfl | rfl
    all_goals contradiction

theorem Blank.ne_append_spelled {gap gap' word : List Char} {token : Token} (blank : Blank gap)
    (spelled : token.Spelled word) (rest : List Char) : gap ≠ gap' ++ (word ++ rest) := by
  rintro rfl
  obtain ⟨char, others, rfl, _⟩ := spelled.head
  have first := blank char (by simp)
  rw [spelled.not_blank rest char (by simp)] at first
  contradiction

/-- A text spells one sequence of tokens at most. -/
theorem Spells.unique {tokens tokens' : List Token} {text : List Char} (one : Spells tokens text)
    (two : Spells tokens' text) : tokens = tokens' := by
  induction one generalizing tokens' with
  | done blank =>
    cases two with
    | done _ => rfl
    | token _ spelled _ _ => exact absurd rfl (blank.ne_append_spelled spelled _)
  | @token gap word rest _ _ blank spelled ends _ ih =>
    generalize same : gap ++ (word ++ rest) = text at two
    cases two with
    | done blank' => exact absurd same.symm (blank'.ne_append_spelled spelled _)
    | token blank' spelled' ends' others' =>
      obtain ⟨_, after⟩ := span_append_inj blank blank' (spelled.not_blank _)
        (spelled'.not_blank _) same
      obtain ⟨rfl, rfl⟩ := spelled.unique spelled' ends ends' after
      rw [ih others']

theorem Spells.blank {tokens : List Token} {gap text : List Char} (before : Blank gap)
    (spells : Spells tokens text) : Spells tokens (gap ++ text) := by
  cases spells with
  | done after => exact .done (before.append after)
  | token after spelled ends rest =>
    rw [← List.append_assoc]
    exact .token (before.append after) spelled ends rest

theorem Token.Ends.append {token : Token} {rest text : List Char} (ends : token.Ends rest)
    (parts : ∀ char ∈ text.head?, isNumeralChar char = false) : token.Ends (rest ++ text) := by
  cases token with
  | number value =>
    cases rest with
    | nil => exact parts
    | cons char rest => exact ends
  | _ => trivial

theorem Spells.append {tokens tokens' : List Token} {text text' : List Char}
    (one : Spells tokens text) (two : Spells tokens' text')
    (parts : ∀ char ∈ text'.head?, isNumeralChar char = false) :
    Spells (tokens ++ tokens') (text ++ text') := by
  induction one with
  | done blank => exact two.blank blank
  | token blank spelled ends _ ih =>
    rw [List.append_assoc, List.append_assoc]
    exact .token blank spelled (ends.append parts) ih

theorem Token.Spelled.cons {token : Token} {tokens : List Token} {word text : List Char}
    (spelled : token.Spelled word) (ends : token.Ends text) (rest : Spells tokens text) :
    Spells (token :: tokens) (word ++ text) :=
  .token .nil spelled ends rest

theorem Token.Spelled.spells {token : Token} {word : List Char} (spelled : token.Spelled word) :
    Spells [token] word := by
  have ends : token.Ends [] := by cases token <;> simp [Token.Ends]
  simpa using spelled.cons ends (.done .nil)

theorem Spells.cons_fixed {token : Token} {tokens : List Token} {word text : List Char}
    (fixed : token.fixed? = some word) (rest : Spells tokens text) :
    Spells (token :: tokens) (word ++ text) := by
  have ends : token.Ends text := by
    cases token with
    | number value => contradiction
    | _ => trivial
  exact (Token.Spelled.fixed fixed).cons ends rest

/-- Nothing that belongs to a numeral stands where a token is always spelled in the same way. -/
theorem Token.not_numeral_of_fixed? {token : Token} {word gap : List Char} (blank : Blank gap)
    (fixed : token.fixed? = some word) :
    ∀ char ∈ (gap ++ word).head?, isNumeralChar char = false := by
  intro first head
  cases gap with
  | cons char gap =>
    obtain rfl : char = first := by simpa using head
    exact isNumeralChar_of_isBlank (blank char (by simp))
  | nil =>
    cases token with
    | bool value => cases value <;> cases fixed <;> cases head <;> rfl
    | number value => contradiction
    | string text => contradiction
    | _ =>
      cases fixed
      cases head
      rfl

/-- The text is a writing of the document. -/
def Writes (document : Json) (text : String) : Prop := Spells document.tokens text.toList

/-- A text is the writing of one document at most. -/
theorem Writes.unique {document other : Json} {text : String} (one : document.Writes text)
    (two : other.Writes text) : document = other := by
  have same : tokens document ++ [] = tokens other ++ [] := by rw [Spells.unique one two]
  exact (tokens_readBack document other [] [] same).1

end Descent.Json
