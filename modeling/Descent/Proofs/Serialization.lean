import Descent.Describe
import Descent.Proofs.JsonGrammar
import Mathlib.Data.List.TakeDrop
import Mathlib.Data.List.TakeWhile

set_option autoImplicit false

/-!
What the documents of outputs and states show.

Both texts of a document are writings of it, in one line and over several. So nothing is lost in
them, and nothing in the document of an output. That of a state drops its depth, and of its failure
all but the message (`State.Shown` is the rest).
-/

namespace Descent

namespace Json

/-- The two ways to write a document. -/
inductive Style where
  | compact
  | pretty

def Style.write : Style → Json → String
  | .compact => Json.compact
  | .pretty => Json.pretty

/-! ## Tokens as they are written -/

theorem escaped_written (char : Char) : Written char (escaped char) := by
  have control : ∀ code < 0x20, codeUnit? ['0', '0', Nat.digitChar (code / 16),
      Nat.digitChar (code % 16)] = some code := by decide
  fun_cases escaped char with
  | case1 | case2 | case3 | case4 | case5 | case6 | case7 =>
    exact .short (by simp [shortEscapes, *])
  | case8 _ _ _ _ _ _ _ small => exact .coded (.unit (control _ small))
  | case9 unquoted unescaped _ _ _ _ _ large =>
    exact .plain unquoted unescaped (Nat.le_of_not_lt large)

theorem writtenAll_flatMap (chars : List Char) : WrittenAll chars (chars.flatMap escaped) := by
  induction chars with
  | nil => exact .nil
  | cons char chars ih => exact .cons (escaped_written char) ih

theorem spelled_quotedText (text : String) :
    (Token.string text).Spelled (quotedText text).toList := by
  have spelled := Token.Spelled.string (writtenAll_flatMap text.toList)
  rw [String.ofList_toList] at spelled
  rw [quotedText, String.toList_ofList]
  exact spelled

theorem span_all {sort : Char → Bool} {chars : List Char}
    (all : ∀ char ∈ chars, sort char = true) : chars.span sort = (chars, []) := by
  rw [List.span_eq_takeWhile_dropWhile, List.takeWhile_eq_self_iff.mpr all,
    List.dropWhile_eq_nil_iff.mpr all]

theorem scaled?_zero (value : Int) : scaled? value 0 = some value :=
  congrArg some (Int.mul_one value)

/-- A numeral without a fraction or an exponent. -/
theorem numeralValue?_whole {numeral : List Char}
    (plain : ∀ char ∈ numeral, char ≠ '.' ∧ char ≠ 'e' ∧ char ≠ 'E') :
    numeralValue? numeral = some (signedValue numeral) := by
  have mantissa : numeral.span (fun char => char != 'e' && char != 'E') = (numeral, []) :=
    span_all fun char member => by simp [plain char member]
  have whole : numeral.span (· != '.') = (numeral, []) :=
    span_all fun char member => by simp [plain char member]
  simp only [numeralValue?, mantissa, whole, List.drop_nil, List.append_nil]
  exact scaled?_zero (signedValue numeral)

theorem signedValue_digits {digits : List Char} (all : ∀ char ∈ digits, char.isDigit = true) :
    signedValue digits = Nat.ofDigitChars 10 digits 0 := by
  fun_cases signedValue digits with
  | case1 => exact absurd (all '-' (by simp)) (by decide)
  | case2 => exact absurd (all '+' (by simp)) (by decide)
  | case3 => rfl

/-- The digits of a number begin with a zero only if it is zero. -/
theorem eq_zero_of_head_toDigits {number : Nat}
    (zero : (Nat.toDigits 10 number).head? = some '0') : number = 0 := by
  induction number using Nat.strongRecOn with
  | ind number ih =>
    by_cases small : number < 10
    · rw [Nat.toDigits_of_lt_base small] at zero
      have digits : ∀ digit < 10, Nat.digitChar digit = '0' → digit = 0 := by decide
      exact digits number small (by simpa using zero)
    -- The first digit is that of the number without its last one, which is not zero either.
    · rw [Nat.toDigits_of_base_le (by decide) (Nat.le_of_not_lt small), List.head?_append,
        List.head?_eq_some_head Nat.toDigits_ne_nil] at zero
      have tens := ih (number / 10) (by omega)
        ((List.head?_eq_some_head Nat.toDigits_ne_nil).trans zero)
      omega

theorem isDigit_toDigits (number : Nat) :
    ∀ char ∈ Nat.toDigits 10 number, char.isDigit = true :=
  fun _ => Nat.isDigit_of_mem_toDigits (by decide) (by decide)

/-- The digits of a number, with or without a sign. -/
theorem spelled_toDigits (number : Nat) {sign : List Char} (signed : sign = [] ∨ sign = ['-']) :
    (Token.number (signedValue (sign ++ Nat.toDigits 10 number))).Spelled
      (sign ++ Nat.toDigits 10 number) := by
  have digits := isDigit_toDigits number
  have leading : (Nat.toDigits 10 number).head? = some '0' → Nat.toDigits 10 number = ['0'] := by
    intro zero
    rw [eq_zero_of_head_toDigits zero]
    rfl
  have numeral : Numeral (sign ++ Nat.toDigits 10 number) := by
    simpa using Numeral.mk signed ⟨Nat.toDigits_ne_nil, digits⟩ leading .none .none
  refine .number numeral (numeralValue?_whole ?_)
  refine List.forall_mem_append.mpr ⟨?_, fun char member => ?_⟩
  · rcases signed with rfl | rfl <;> simp
  · refine ⟨?_, ?_, ?_⟩ <;> (rintro rfl; exact absurd (digits _ member) (by decide))

theorem spelled_toString (value : Int) : (Token.number value).Spelled (toString value).toList := by
  rw [Int.toString_eq_repr]
  cases value with
  | ofNat number =>
    have spelled := spelled_toDigits number (.inl rfl)
    rw [List.nil_append, signedValue_digits (isDigit_toDigits number),
      Nat.ofDigitChars_ten_toDigits] at spelled
    rw [Int.repr, Nat.toList_repr]
    exact spelled
  | negSucc number =>
    have spelled := spelled_toDigits (number + 1) (.inr rfl)
    rw [List.singleton_append, signedValue, Nat.ofDigitChars_ten_toDigits] at spelled
    rw [Int.repr, String.toList_append, Nat.toList_repr]
    exact spelled

/-! ## Documents as they are written -/

section

variable {α : Type} {tokens : α → List Token} {items : List α}

theorem spells_separated {text : α → List Char} {gap : List Char} (blank : Blank gap)
    (each : ∀ item ∈ items, Spells (tokens item) (text item)) :
    Spells ([.comma].intercalate (items.map tokens)) ((',' :: gap).intercalate (items.map text)) := by
  induction items with
  | nil => exact .done .nil
  | cons item items ih =>
    obtain ⟨first, others⟩ := List.forall_mem_cons.mp each
    cases items with
    | nil => simpa using first
    | cons next items =>
      have comma : Token.comma.fixed? = some [','] := rfl
      have after := Spells.cons_fixed comma ((ih others).blank blank)
      have row := first.append after (by simp [isNumeralChar])
      simpa [List.intercalate_cons_cons] using row

variable {opening closing : Token}

theorem spells_enclosed {inner : List Token} {before after gap gap' text : List Char}
    (opens : opening.fixed? = some before) (closes : closing.fixed? = some after)
    (blank : Blank gap) (blank' : Blank gap') (spells : Spells inner text) :
    Spells (opening :: (inner ++ [closing])) (before ++ (gap ++ (text ++ (gap' ++ after)))) := by
  have ending : Spells [closing] (gap' ++ after) := (Token.Spelled.fixed closes).spells.blank blank'
  have inside := spells.append ending (Token.not_numeral_of_fixed? blank' closes)
  exact .cons_fixed opens (inside.blank blank)

variable {text : α → String} {before after : String}

theorem spells_compact (opens : opening.fixed? = some before.toList)
    (closes : closing.fixed? = some after.toList)
    (each : ∀ item ∈ items, Spells (tokens item) (text item).toList) :
    Spells (opening :: ([.comma].intercalate (items.map tokens) ++ [closing]))
      (before ++ ",".intercalate (items.map text) ++ after).toList := by
  have whole := spells_enclosed opens closes .nil .nil (spells_separated .nil each)
  simpa [String.toList_intercalate, Function.comp_def] using whole

theorem blank_newLine (depth : Nat) : Blank (newLine depth).toList := by
  have indent (count : Nat) : Blank ("".pushn ' ' count).toList := by
    induction count with
    | zero => nofun
    | succ count ih =>
      have more : "".pushn ' ' (count + 1) = ("".pushn ' ' count).push ' ' := rfl
      rw [more, String.toList_push]
      exact ih.append (.cons rfl .nil)
  rw [newLine, String.toList_append]
  exact .append (.cons rfl .nil) (indent _)

theorem spells_enclose (depth : Nat) (opens : opening.fixed? = some before.toList)
    (closes : closing.fixed? = some after.toList)
    (each : ∀ item ∈ items, Spells (tokens item) (text item).toList) :
    Spells (opening :: ([.comma].intercalate (items.map tokens) ++ [closing]))
      (enclose before after depth (items.map text)).toList := by
  cases items with
  | nil => simpa [enclose] using spells_compact opens closes each
  | cons item items =>
    have whole := spells_enclosed opens closes (blank_newLine (depth + 1)) (blank_newLine depth)
      (spells_separated (blank_newLine (depth + 1)) each)
    simpa [enclose, String.toList_intercalate, Function.comp_def] using whole

end

theorem spells_member (key : String) {value : Json} {gap text : List Char} (blank : Blank gap)
    (spells : Spells value.tokens text) :
    Spells (memberTokens (key, value)) ((quotedText key).toList ++ ':' :: (gap ++ text)) := by
  have colon : Token.colon.fixed? = some [':'] := rfl
  exact (spelled_quotedText key).cons trivial (.cons_fixed colon (spells.blank blank))

theorem compactItems_eq_map (items : List Json) : compactItems items = items.map compact := by
  induction items with
  | nil => rfl
  | cons item items ih => rw [compactItems, ih, List.map_cons]

theorem compactMembers_eq_map (members : List (String × Json)) : compactMembers members =
    members.map fun member => quotedText member.1 ++ ":" ++ member.2.compact := by
  induction members with
  | nil => rfl
  | cons member members ih => rw [compactMembers, ih, List.map_cons]

theorem prettyItems_eq_map (depth : Nat) (items : List Json) :
    prettyItems depth items = items.map (prettyAt depth) := by
  induction items with
  | nil => rfl
  | cons item items ih => rw [prettyItems, ih, List.map_cons]

theorem prettyMembers_eq_map (depth : Nat) (members : List (String × Json)) :
    prettyMembers depth members =
      members.map fun member => quotedText member.1 ++ ": " ++ member.2.prettyAt depth := by
  induction members with
  | nil => rfl
  | cons member members ih => rw [prettyMembers, ih, List.map_cons]

theorem compact_writes (document : Json) : document.Writes document.compact := by
  induction document using Json.induction with
  | null => exact (Token.Spelled.fixed rfl).spells
  | bool value => cases value <;> exact (Token.Spelled.fixed rfl).spells
  | number value => exact (spelled_toString value).spells
  | string text => exact (spelled_quotedText text).spells
  | array items ih =>
    rw [Writes, tokens, tokensOfItems_eq_map, compact, compactItems_eq_map]
    exact spells_compact rfl rfl ih
  | object members ih =>
    have each : ∀ member ∈ members, Spells (memberTokens member)
        (quotedText member.1 ++ ":" ++ member.2.compact).toList := by
      intro member listed
      simpa using spells_member member.1 .nil (ih member listed)
    rw [Writes, tokens, tokensOfMembers_eq_map, compact, compactMembers_eq_map]
    exact spells_compact rfl rfl each

theorem prettyAt_writes (depth : Nat) (document : Json) :
    document.Writes (document.prettyAt depth) := by
  induction document using Json.induction generalizing depth with
  | null | number _ | string _ =>
    rw [prettyAt]
    exact compact_writes _
  | bool value =>
    cases value <;> rw [prettyAt]
    all_goals exact compact_writes _
  | array items ih =>
    rw [Writes, tokens, tokensOfItems_eq_map, prettyAt, prettyItems_eq_map]
    exact spells_enclose depth rfl rfl fun item listed => ih item listed (depth + 1)
  | object members ih =>
    have each : ∀ member ∈ members, Spells (memberTokens member)
        (quotedText member.1 ++ ": " ++ member.2.prettyAt (depth + 1)).toList := by
      intro member listed
      have blank : Blank [' '] := .cons rfl .nil
      simpa using spells_member member.1 blank (ih member listed (depth + 1))
    rw [Writes, tokens, tokensOfMembers_eq_map, prettyAt, prettyMembers_eq_map]
    exact spells_enclose depth rfl rfl each

/-- In one line or over several, the text is a writing of the document. -/
theorem Style.writes (style : Style) (document : Json) : document.Writes (style.write document) := by
  cases style with
  | compact => exact compact_writes document
  | pretty => exact prettyAt_writes 0 document

theorem Style.write_inj (style : Style) {document other : Json} :
    style.write document = style.write other ↔ document = other := by
  constructor
  · intro same
    have writes := style.writes document
    rw [same] at writes
    exact writes.unique (style.writes other)
  · rintro rfl
    rfl

/-- The text is the writing of a document that is read as the value. -/
def ReadFrom {α : Type} (read : Json → Option α) (text : String) (value : α) : Prop :=
  ∃ document : Json, document.Writes text ∧ read document = some value

theorem readFrom_write_iff {α : Type} {read : Json → Option α} {document : Json} {value other : α}
    (style : Style) (reads : read document = some value) :
    ReadFrom read (style.write document) other ↔ other = value := by
  constructor
  · rintro ⟨found, writes, readsFound⟩
    rw [writes.unique (style.writes document), reads] at readsFound
    exact (Option.some.inj readsFound).symm
  · rintro rfl
    exact ⟨document, style.writes document, reads⟩

end Json

namespace Output

mutual

/-- A text is read as a leaf, and an array as a list. -/
def ofJson? : Json → Option (Output String)
  | .string text => some (.value text)
  | .array items => (itemsOfJson? items).map .list
  | _ => none

def itemsOfJson? : List Json → Option (List (Output String))
  | [] => some []
  | item :: items => do return (← ofJson? item) :: (← itemsOfJson? items)

end

mutual

theorem ofJson?_toJson : ∀ output : Output String, ofJson? (output.toJson .string) = some output
  | .value text => rfl
  | .list items => by rw [toJson, ofJson?, itemsOfJson?_itemsToJson items, Option.map_some]

theorem itemsOfJson?_itemsToJson :
    ∀ items : List (Output String), itemsOfJson? (itemsToJson .string items) = some items
  | [] => rfl
  | item :: items => by
    rw [itemsToJson, itemsOfJson?, ofJson?_toJson item, itemsOfJson?_itemsToJson items]
    rfl

end

theorem toJson_inj {output other : Output String} :
    output.toJson .string = other.toJson .string ↔ output = other := by
  constructor
  · intro same
    have read := ofJson?_toJson other
    rw [← same, ofJson?_toJson] at read
    exact Option.some.inj read
  · rintro rfl
    rfl

end Output

namespace State

/-- What the document of a state shows of it. -/
structure Shown where
  text : String
  position : Nat
  result : Output String
  error : String
  failed : Bool

def shown (state : State String) : Shown where
  text := state.text
  position := state.position
  result := state.result
  error := state.errorMessage
  failed := state.failed

/-- What an object shows in the members of these names. -/
def Shown.ofJson? : Json → Option Shown
  | .object members => do
    let .string text ← members.lookup "text" | none
    let .number position ← members.lookup "position" | none
    let result ← Output.ofJson? (← members.lookup "result")
    let .string error ← members.lookup "error" | none
    let .bool failed ← members.lookup "failed" | none
    return { text, position := ← position.toNat?, result, error, failed }
  | _ => none

theorem ofJson?_toJson (state : State String) : Shown.ofJson? state.toJson = some state.shown := by
  have position : (state.position : Int).toNat? = some state.position := rfl
  simp [Shown.ofJson?, toJson, List.lookup_cons, Output.ofJson?_toJson, position, shown]

theorem toJson_eq_iff {state other : State String} :
    state.toJson = other.toJson ↔
      state.text = other.text ∧ state.position = other.position ∧ state.result = other.result ∧
        state.errorMessage = other.errorMessage ∧ state.failed = other.failed := by
  constructor
  · intro same
    have read := ofJson?_toJson other
    rw [← same, ofJson?_toJson] at read
    exact Shown.mk.inj (Option.some.inj read)
  · rintro ⟨text, position, result, error, failed⟩
    simp only [toJson, text, position, result, error, failed]

end State

/-- The texts of outputs and states, in either style. An output is read back from its text, and
nothing else is. Of a state, its depth and the make-up of its failure are lost, and nothing else. -/
theorem Json.Style.shows_exactly (style : Json.Style) :
    (∀ output other : Output String,
      Json.ReadFrom Output.ofJson? (style.write (output.toJson .string)) other ↔ other = output) ∧
    (∀ (state : State String) (shown : State.Shown),
      Json.ReadFrom State.Shown.ofJson? (style.write state.toJson) shown ↔ shown = state.shown) ∧
    (∀ output other : Output String,
      style.write (output.toJson .string) = style.write (other.toJson .string) ↔ output = other) ∧
    (∀ state other : State String,
      style.write state.toJson = style.write other.toJson ↔
        state.text = other.text ∧ state.position = other.position ∧ state.result = other.result ∧
          state.errorMessage = other.errorMessage ∧ state.failed = other.failed) := by
  refine ⟨fun output other => Json.readFrom_write_iff style (Output.ofJson?_toJson output),
    fun state shown => Json.readFrom_write_iff style (State.ofJson?_toJson state),
    fun output other => ?_, fun state other => ?_⟩
  · rw [style.write_inj, Output.toJson_inj]
  · rw [style.write_inj, State.toJson_eq_iff]

example : Json.Style.compact.write ((Output.list [.value "\"\n", .list []]).toJson .string) =
    "[\"\\\"\\n\",[]]" := by
  decide

end Descent
