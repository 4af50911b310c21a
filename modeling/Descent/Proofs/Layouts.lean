import Descent.Proofs.Serialization

set_option autoImplicit false

/-!
What the two layouts of a document have in common.

They are the same text up to the blanks outside quotes. A scan that leaves these out only has to
know whether it stands between quotes, so it can be taken apart wherever a text is
(`Squeezes.append`), and the layouts are compared part by part, by induction on the document.
-/

namespace Descent.Json

/-- Where a scan of a text stands: outside quotes, between them, or there after a backslash. -/
inductive Quoting where
  | outside
  | inside
  | escaped
  deriving DecidableEq

def Quoting.next : Quoting → Char → Quoting
  | .outside, char => if char = '"' then .inside else .outside
  | .inside, char =>
    if char = '"' then .outside else if char = '\\' then .escaped else .inside
  | .escaped, _ => .inside

/-- The characters of a text without the blanks outside quotes. -/
def squeezeFrom (quoting : Quoting) : List Char → List Char
  | [] => []
  | char :: rest =>
    if quoting = .outside ∧ isBlank char then squeezeFrom quoting rest
    else char :: squeezeFrom (quoting.next char) rest

def squeeze (text : String) : String := String.ofList (squeezeFrom .outside text.toList)

/-- A part of a text is squeezed in this way, whatever follows it. -/
def Squeezes (before : Quoting) (part squeezed : List Char) (after : Quoting) : Prop :=
  ∀ rest, squeezeFrom before (part ++ rest) = squeezed ++ squeezeFrom after rest

namespace Squeezes

variable {before middle after : Quoting} {part part' squeezed squeezed' : List Char}

theorem nil (quoting : Quoting) : Squeezes quoting [] [] quoting := fun _ => rfl

theorem append (one : Squeezes before part squeezed middle)
    (two : Squeezes middle part' squeezed' after) :
    Squeezes before (part ++ part') (squeezed ++ squeezed') after := by
  intro rest
  rw [List.append_assoc, one, two, List.append_assoc]

theorem blank {gap : List Char} (blank : Blank gap) : Squeezes .outside gap [] .outside := by
  intro rest
  induction gap with
  | nil => rfl
  | cons char gap ih =>
    obtain ⟨first, others⟩ := List.forall_mem_cons.mp blank
    rw [List.cons_append, squeezeFrom, if_pos ⟨rfl, first⟩, ih others]

theorem cons {char : Char} (kept : before = .outside → isBlank char = false)
    (squeezes : Squeezes (before.next char) part squeezed after) :
    Squeezes before (char :: part) (char :: squeezed) after := by
  intro rest
  have stays : ¬(before = .outside ∧ isBlank char = true) := by
    rintro ⟨outside, blank⟩
    simp [kept outside] at blank
  rw [List.cons_append, squeezeFrom, if_neg stays, squeezes, List.cons_append]

/-- Characters that are neither blanks nor quotes stay. -/
theorem word {chars : List Char} (plain : ∀ char ∈ chars, isBlank char = false ∧ char ≠ '"') :
    Squeezes .outside chars chars .outside := by
  induction chars with
  | nil => exact .nil _
  | cons char chars ih =>
    obtain ⟨⟨visible, other⟩, others⟩ := List.forall_mem_cons.mp plain
    refine .cons (fun _ => visible) ?_
    rw [Quoting.next, if_neg other]
    exact ih others

/-- Between quotes all stays, up to a quote or a backslash. -/
theorem between {chars : List Char} (plain : ∀ char ∈ chars, char ≠ '"' ∧ char ≠ '\\') :
    Squeezes .inside chars chars .inside := by
  induction chars with
  | nil => exact .nil _
  | cons char chars ih =>
    obtain ⟨⟨unquoted, unescaped⟩, others⟩ := List.forall_mem_cons.mp plain
    refine .cons nofun ?_
    rw [Quoting.next, if_neg unquoted, if_neg unescaped]
    exact ih others

/-- After a backslash one more character stays, whatever it is. -/
theorem escape (char : Char) (squeezes : Squeezes .inside part squeezed after) :
    Squeezes .inside ('\\' :: char :: part) ('\\' :: char :: squeezed) after :=
  .cons nofun (.cons nofun squeezes)

end Squeezes

theorem plain_of_codeUnit? {digits : List Char} {code : Nat} (unit : codeUnit? digits = some code) :
    ∀ char ∈ digits, char ≠ '"' ∧ char ≠ '\\' := by
  -- Neither of the two characters is a hexadecimal digit.
  have quote : hexDigit? '"' = none := rfl
  have backslash : hexDigit? '\\' = none := rfl
  revert unit
  fun_cases codeUnit? digits with
  | case1 first second third fourth =>
    intro unit char member
    constructor
    all_goals
      rintro rfl
      simp only [List.mem_cons, List.not_mem_nil, or_false] at member
      rcases member with rfl | rfl | rfl | rfl <;> simp [quote, backslash] at unit
  | case2 => nofun

theorem Coded.squeezes {char : Char} {code : List Char} (coded : Coded char code) :
    Squeezes .inside ('\\' :: 'u' :: code) ('\\' :: 'u' :: code) .inside := by
  cases coded with
  | unit unit => exact .escape 'u' (.between (plain_of_codeUnit? unit))
  | pair high low =>
    have second := Squeezes.escape 'u' (.between (plain_of_codeUnit? low))
    exact .escape 'u' (.append (.between (plain_of_codeUnit? high)) second)

theorem Written.squeezes {char : Char} {written : List Char} (one : Written char written) :
    Squeezes .inside written written .inside := by
  cases one with
  | plain unquoted unescaped => exact .between (by simp [unquoted, unescaped])
  | short _ => exact .escape _ (.nil _)
  | coded coded => exact coded.squeezes

theorem WrittenAll.squeezes {chars written : List Char} (all : WrittenAll chars written) :
    Squeezes .inside written written .inside := by
  induction all with
  | nil => exact .nil _
  | cons one _ ih => exact one.squeezes.append ih

theorem Token.plain_of_fixed? {token : Token} {word : List Char}
    (fixed : token.fixed? = some word) : ∀ char ∈ word, isBlank char = false ∧ char ≠ '"' := by
  cases token with
  | bool value => cases value <;> cases fixed <;> simp [isBlank]
  | number value => contradiction
  | string text => contradiction
  | _ =>
    cases fixed
    simp [isBlank]

theorem Token.Spelled.squeezes {token : Token} {word : List Char} (spelled : token.Spelled word) :
    Squeezes .outside word word .outside := by
  cases spelled with
  | fixed fixed => exact .word (Token.plain_of_fixed? fixed)
  | number numeral _ =>
    refine .word fun char member => ?_
    have belongs := numeral.isNumeralChar char member
    refine ⟨Bool.eq_false_iff.mpr fun blank => ?_, ?_⟩
    · rw [isNumeralChar_of_isBlank blank] at belongs
      contradiction
    · rintro rfl
      contradiction
  | string all =>
    have closing : Squeezes .inside ['"'] ['"'] .outside := .cons nofun (.nil _)
    exact .cons (fun _ => rfl) (all.squeezes.append closing)

section

variable {α : Type} {items : List α} {text squeezed : α → List Char}

theorem squeezes_separated {gap : List Char} (blank : Blank gap)
    (each : ∀ item ∈ items, Squeezes .outside (text item) (squeezed item) .outside) :
    Squeezes .outside ((',' :: gap).intercalate (items.map text))
      ([','].intercalate (items.map squeezed)) .outside := by
  induction items with
  | nil => exact .nil _
  | cons item items ih =>
    obtain ⟨first, others⟩ := List.forall_mem_cons.mp each
    cases items with
    | nil => simpa using first
    | cons next items =>
      have comma : Squeezes .outside (',' :: gap) [','] .outside :=
        .cons (fun _ => rfl) (.blank blank)
      simpa [List.intercalate_cons_cons] using first.append (comma.append (ih others))

variable {opening closing : Token} {before after : List Char}

theorem squeezes_enclosed {gap gap' inner inner' : List Char}
    (opens : opening.fixed? = some before) (closes : closing.fixed? = some after)
    (blank : Blank gap) (blank' : Blank gap') (squeezes : Squeezes .outside inner inner' .outside) :
    Squeezes .outside (before ++ (gap ++ (inner ++ (gap' ++ after)))) (before ++ (inner' ++ after))
      .outside := by
  have first := (Token.Spelled.fixed opens).squeezes
  have last := (Token.Spelled.fixed closes).squeezes
  have ending := squeezes.append ((Squeezes.blank blank').append last)
  exact first.append ((Squeezes.blank blank).append ending)

end

section

variable {α : Type} {items : List α} {text squeezed : α → String} (opening closing : Token)
  {before after : String}

theorem squeezes_compact (opens : opening.fixed? = some before.toList)
    (closes : closing.fixed? = some after.toList)
    (each : ∀ item ∈ items, Squeezes .outside (text item).toList (squeezed item).toList .outside) :
    Squeezes .outside (before ++ ",".intercalate (items.map text) ++ after).toList
      (before ++ ",".intercalate (items.map squeezed) ++ after).toList .outside := by
  have whole := squeezes_enclosed opens closes .nil .nil (squeezes_separated .nil each)
  simpa [String.toList_intercalate, Function.comp_def] using whole

theorem squeezes_enclose (depth : Nat) (opens : opening.fixed? = some before.toList)
    (closes : closing.fixed? = some after.toList)
    (each : ∀ item ∈ items, Squeezes .outside (text item).toList (squeezed item).toList .outside) :
    Squeezes .outside (enclose before after depth (items.map text)).toList
      (before ++ ",".intercalate (items.map squeezed) ++ after).toList .outside := by
  cases items with
  | nil => simpa [enclose] using squeezes_compact opening closing opens closes each
  | cons item items =>
    have whole := squeezes_enclosed opens closes (blank_newLine (depth + 1)) (blank_newLine depth)
      (squeezes_separated (blank_newLine (depth + 1)) each)
    simpa [enclose, String.toList_intercalate, Function.comp_def] using whole

end

theorem squeezes_member (key : String) {value : Json} {gap text : List Char} (blank : Blank gap)
    (squeezes : Squeezes .outside text value.compact.toList .outside) :
    Squeezes .outside ((quotedText key).toList ++ ':' :: (gap ++ text))
      (quotedText key ++ ":" ++ value.compact).toList .outside := by
  have colon : Squeezes .outside (':' :: gap) [':'] .outside := .cons (fun _ => rfl) (.blank blank)
  have name := (spelled_quotedText key).squeezes
  simpa using name.append (colon.append squeezes)

theorem compact_squeezes (document : Json) :
    Squeezes .outside document.compact.toList document.compact.toList .outside := by
  induction document using Json.induction with
  | null => exact (@Token.Spelled.fixed .null _ rfl).squeezes
  | bool value =>
    cases value with
    | false => exact (@Token.Spelled.fixed (.bool false) _ rfl).squeezes
    | true => exact (@Token.Spelled.fixed (.bool true) _ rfl).squeezes
  | number value => exact (spelled_toString value).squeezes
  | string text => exact (spelled_quotedText text).squeezes
  | array items ih =>
    rw [compact, compactItems_eq_map]
    exact squeezes_compact .openArray .closeArray rfl rfl ih
  | object members ih =>
    rw [compact, compactMembers_eq_map]
    refine squeezes_compact .openObject .closeObject rfl rfl fun member listed => ?_
    simpa using squeezes_member member.1 .nil (ih member listed)

theorem prettyAt_squeezes (depth : Nat) (document : Json) :
    Squeezes .outside (document.prettyAt depth).toList document.compact.toList .outside := by
  induction document using Json.induction generalizing depth with
  | null =>
    rw [prettyAt]
    exact compact_squeezes .null
  | bool value =>
    cases value with
    | false =>
      rw [prettyAt]
      exact compact_squeezes (.bool false)
    | true =>
      rw [prettyAt]
      exact compact_squeezes (.bool true)
  | number value =>
    rw [prettyAt]
    exact compact_squeezes (.number value)
  | string text =>
    rw [prettyAt]
    exact compact_squeezes (.string text)
  | array items ih =>
    rw [prettyAt, prettyItems_eq_map, compact, compactItems_eq_map]
    exact squeezes_enclose .openArray .closeArray depth rfl rfl fun item listed =>
      ih item listed (depth + 1)
  | object members ih =>
    rw [prettyAt, prettyMembers_eq_map, compact, compactMembers_eq_map]
    refine squeezes_enclose .openObject .closeObject depth rfl rfl fun member listed => ?_
    have blank : Blank [' '] := .cons rfl .nil
    simpa using squeezes_member member.1 blank (ih member listed (depth + 1))

/-- Without its blanks each layout of a document is the one in one line. -/
theorem Style.squeeze_write (style : Style) (document : Json) {gap : String}
    (blank : Blank gap.toList) : squeeze (style.write document ++ gap) = document.compact := by
  have squeezes :
      Squeezes .outside (style.write document).toList document.compact.toList .outside := by
    cases style with
    | compact => exact compact_squeezes document
    | pretty => exact prettyAt_squeezes 0 document
  have whole := squeezes.append (.blank blank) []
  rw [List.append_nil, squeezeFrom, List.append_nil, List.append_nil] at whole
  rw [squeeze, String.toList_append, whole, String.ofList_toList]

example : squeeze "[\"a b\", \"\\\" \",\n  null ]" = "[\"a b\",\"\\\" \",null]" := by decide

end Descent.Json
