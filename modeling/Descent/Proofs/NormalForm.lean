import Descent.Proofs.Outcome
import Mathlib.Data.List.Chain

set_option autoImplicit false

/-!
Displaying and reading again.

What is displayed for an output has blanks after its commas. Without these it is `canonical`, which
is written for the output too and has no comma that could be left out (`Renders.canonical`,
`Renders.tidyItem_canonical`, by induction on any rendering). Nothing shorter is written for the
output, and a rendering without commas before closing brackets is the canonical one.
-/

namespace Descent

namespace Text

/-- The text with every comma and blank in it replaced by a comma. -/
def compact : List Char → List Char
  | ',' :: ' ' :: rest => ',' :: compact rest
  | char :: rest => char :: compact rest
  | [] => []

theorem compact_cons {char : Char} {rest : List Char}
    (kept : char = ',' → rest.head? ≠ some ' ') :
    compact (char :: rest) = char :: compact rest := by
  rw [compact]
  rintro rest comma rfl
  exact kept comma rfl

/-- Where the second part does not begin with a blank, the parts are compacted by themselves. -/
theorem compact_append {char : Char} (filled : char ≠ ' ') (first rest : List Char) :
    compact (first ++ char :: rest) = compact first ++ compact (char :: rest) := by
  induction first using compact.induct with
  | case1 first ih => simp [compact, ih]
  | case2 head first other ih =>
    have alone : head = ',' → first.head? ≠ some ' ' := by
      intro comma blank
      obtain ⟨rest, rfl⟩ := List.head?_eq_some_iff.mp blank
      exact other rest comma rfl
    have together : head = ',' → (first ++ char :: rest).head? ≠ some ' ' := by
      cases first with
      | nil => simpa using fun _ => filled
      | cons _ _ => exact alone
    rw [List.cons_append, compact_cons together, compact_cons alone, ih, List.cons_append]
  | case3 => rfl

theorem compact_of_notMem {word : List Char} (plain : ',' ∉ word) : compact word = word := by
  induction word with
  | nil => rfl
  | cons char word ih =>
    obtain ⟨other, plain⟩ := not_or.mp (mt List.mem_cons.mpr plain)
    rw [compact_cons fun comma => absurd comma.symm other, ih plain]

theorem compact_intercalate {char : Char} (filled : char ≠ ' ') (texts : List (List Char))
    (rest : List Char) :
    compact ([',', ' '].intercalate texts ++ char :: rest) =
      [','].intercalate (texts.map compact) ++ compact (char :: rest) := by
  induction texts with
  | nil => rfl
  | cons text texts ih =>
    cases texts with
    | nil => simpa using compact_append filled text rest
    | cons next texts =>
      have comma : ',' ≠ ' ' := by decide
      have first := compact_append comma text
        (' ' :: ([',', ' '].intercalate (next :: texts) ++ char :: rest))
      rw [compact, ih] at first
      simpa [List.intercalate_cons_cons] using first

end Text

namespace Brackets

open Text (compact byteLength)

theorem infix_intercalate {word : List Char} {words : List (List Char)} (member : word ∈ words) :
    word <:+: [','].intercalate words := by
  induction words with
  | nil => cases member
  | cons first words ih =>
    cases words with
    | nil => simp_all
    | cons next words =>
      rw [List.intercalate_cons_cons]
      rcases List.mem_cons.mp member with rfl | later
      · exact ⟨[], _, (List.append_assoc _ _ _).symm⟩
      · exact (ih later).trans (List.suffix_append _ _).isInfix

theorem byteLength_intercalate_le {pieces : List (Output String × List Char)}
    {text : Output String → List Char}
    (shorter : ∀ piece ∈ pieces, byteLength (text piece.1) ≤ byteLength piece.2) :
    byteLength ([','].intercalate (pieces.map fun piece => text piece.1)) ≤
      byteLength ([','].intercalate (pieces.map Prod.snd)) := by
  induction pieces with
  | nil => exact Nat.le_refl _
  | cons piece pieces ih =>
    obtain ⟨one, others⟩ := List.forall_mem_cons.mp shorter
    cases pieces with
    | nil => simpa using one
    | cons next pieces =>
      have rest := ih others
      simp only [List.map_cons, List.intercalate_cons_cons, Text.byteLength_append] at rest ⊢
      omega

theorem ne_of_accepts {kind : CharRun} {char : Char} (accepted : kind.accepts char = true) :
    char ≠ ',' ∧ char ≠ ']' := by
  constructor
  · rintro rfl
    cases kind <;> cases accepted
  · rintro rfl
    cases kind <;> cases accepted

/-- An output as it is displayed, but without blanks. -/
def canonical (output : Output String) : List Char := compact (output.display id).toList

theorem canonical_list (items : List (Output String)) :
    canonical (.list items) = '[' :: ([','].intercalate (items.map canonical) ++ [']']) := by
  have shown : ((Output.list items).display id).toList =
      '[' :: ([',', ' '].intercalate (items.map fun item => (item.display id).toList) ++
        [']']) := by
    simp [Output.display, Output.displayOfItems_eq_map, String.toList_append,
      String.toList_intercalate, Function.comp_def]
  rw [canonical, shown, Text.compact_cons (by simp), Text.compact_intercalate (by decide),
    List.map_map]
  rfl

theorem canonical_word {word : List Char} {kind : CharRun}
    (accepted : ∀ char ∈ word, kind.accepts char = true) :
    canonical (.value (String.ofList word)) = word := by
  have plain : ',' ∉ word := fun member => (ne_of_accepts (accepted _ member)).1 rfl
  rw [canonical, Output.display, id, String.toList_ofList, Text.compact_of_notMem plain]

namespace Renders

variable {output : Output String} {written : List Char}

/-- An output is written without blanks and without a comma after the last item too. -/
protected theorem canonical (renders : Renders output written) :
    Renders output (canonical output) := by
  induction renders with
  | @word word kind nonempty accepted =>
    rw [canonical_word accepted]
    exact .word kind nonempty accepted
  | @list pieces trailing renders _ ih =>
    let pieces' := pieces.map fun piece => (piece.1, Brackets.canonical piece.1)
    have outputs : pieces'.map Prod.fst = pieces.map Prod.fst := by simp [pieces']
    have texts : pieces'.map Prod.snd = (pieces.map Prod.fst).map Brackets.canonical := by
      simp [pieces']
    rw [canonical_list, ← texts, ← outputs, ← List.append_nil ([','].intercalate _)]
    refine .list (fun piece member => ?_) (.inl rfl)
    obtain ⟨original, listed, rfl⟩ := List.mem_map.mp member
    exact ih original listed

/-- Nothing shorter is written for the output. -/
theorem byteLength_canonical_le (renders : Renders output written) :
    byteLength (Brackets.canonical output) ≤ byteLength written := by
  induction renders with
  | word kind nonempty accepted => rw [canonical_word accepted]
  | @list pieces trailing _ _ ih =>
    have shorter := byteLength_intercalate_le ih
    rw [canonical_list, List.map_map]
    simp only [Text.byteLength_cons, Text.byteLength_append, Function.comp_def]
    omega

end Renders

/-! ## Commas before closing brackets -/

/-- No comma stands directly before a closing bracket. -/
def Tidy (written : List Char) : Prop :=
  written.IsChain fun first second => ¬(first = ',' ∧ second = ']')

instance (written : List Char) : Decidable (Tidy written) :=
  inferInstanceAs (Decidable (written.IsChain _))

theorem Tidy.within {part written : List Char} (tidy : Tidy written) (inside : part <:+: written) :
    Tidy part :=
  List.IsChain.infix tidy inside

/-- A tidy text that stays tidy with a comma before it or a bracket behind it. -/
structure TidyItem (written : List Char) : Prop where
  tidy : Tidy written
  begins : ∃ char rest, written = char :: rest ∧ char ≠ ']'
  ends : ∃ front char, written = front ++ [char] ∧ char ≠ ','

namespace TidyItem

theorem word {word : List Char} {kind : CharRun} (nonempty : word ≠ [])
    (accepted : ∀ char ∈ word, kind.accepts char = true) : TidyItem word := by
  have other {char : Char} (member : char ∈ word) := ne_of_accepts (accepted char member)
  refine ⟨?_, ?_, ?_⟩
  · refine (List.pairwise_of_forall_mem_list fun first member _ _ => ?_).isChain
    exact fun together => (other member).1 together.1
  · exact ⟨_, _, (List.cons_head_tail nonempty).symm, (other (List.head_mem nonempty)).2⟩
  · exact ⟨_, _, (List.dropLast_append_getLast nonempty).symm,
      (other (List.getLast_mem nonempty)).1⟩

theorem joined {first rest : List Char} (one : TidyItem first) (others : TidyItem rest) :
    TidyItem (first ++ ',' :: rest) := by
  obtain ⟨char, tail, begun, kept⟩ := one.begins
  obtain ⟨front, last, ended, kept'⟩ := others.ends
  refine ⟨?_, ⟨char, tail ++ ',' :: rest, by simp [begun], kept⟩,
    ⟨first ++ ',' :: front, last, by simp [ended], kept'⟩⟩
  refine one.tidy.append (List.isChain_cons.mpr ⟨?_, others.tidy⟩) (by simp)
  obtain ⟨next, _, rfl, other⟩ := others.begins
  simpa using other

theorem intercalate {words : List (List Char)} (nonempty : words ≠ [])
    (each : ∀ word ∈ words, TidyItem word) : TidyItem ([','].intercalate words) := by
  induction words with
  | nil => contradiction
  | cons word words ih =>
    obtain ⟨one, others⟩ := List.forall_mem_cons.mp each
    cases words with
    | nil => simpa using one
    | cons next words =>
      have joined := one.joined (ih (List.cons_ne_nil _ _) others)
      simpa [List.intercalate_cons_cons] using joined

theorem bracketed {words : List (List Char)} (each : ∀ word ∈ words, TidyItem word) :
    TidyItem ('[' :: ([','].intercalate words ++ [']'])) := by
  refine ⟨?_, ⟨'[', _, rfl, by decide⟩, ⟨'[' :: [','].intercalate words, ']', rfl, by decide⟩⟩
  refine List.isChain_cons.mpr ⟨by simp, ?_⟩
  by_cases nonempty : words = []
  · simp [nonempty]
  · have row := intercalate nonempty each
    obtain ⟨front, last, ended, kept⟩ := row.ends
    refine row.tidy.append (.singleton _) ?_
    simp [ended, kept]

end TidyItem

namespace Renders

variable {output : Output String} {written : List Char}

theorem tidyItem_canonical (renders : Renders output written) :
    TidyItem (Brackets.canonical output) := by
  induction renders with
  | word kind nonempty accepted =>
    rw [canonical_word accepted]
    exact .word nonempty accepted
  | @list pieces trailing _ _ ih =>
    rw [canonical_list, List.map_map]
    refine .bracketed fun word member => ?_
    obtain ⟨piece, listed, rfl⟩ := List.mem_map.mp member
    exact ih piece listed

/-- A rendering with no comma to leave out is the canonical one. -/
theorem eq_canonical (renders : Renders output written) (tidy : Tidy written) :
    Brackets.canonical output = written := by
  induction renders with
  | word kind nonempty accepted => exact canonical_word accepted
  | @list pieces trailing _ allowed ih =>
    rcases allowed with rfl | ⟨rfl, _⟩
    · rw [canonical_list, List.map_map, List.append_nil]
      have same : pieces.map (Brackets.canonical ∘ Prod.fst) = pieces.map Prod.snd := by
        refine List.map_congr_left fun piece member => ih piece member (tidy.within ?_)
        have inside := infix_intercalate (List.mem_map_of_mem (f := Prod.snd) member)
        exact inside.trans ⟨['['], [']'], by simp⟩
      rw [same]
    · have last : Tidy [',', ']'] :=
        tidy.within ⟨'[' :: [','].intercalate (pieces.map Prod.snd), [], by simp⟩
      exact absurd last (by decide)

end Renders

/-- What is read within a limit is written at the start, and it is read again from its canonical
rendering. -/
theorem parseWithin_canonical (limit : UInt64) {text : String}
    (succeeds : (parseWithin limit text).failed = false) {shown : String}
    (canonical : shown.toList = canonical (parseWithin limit text).result) :
    (∃ written rest, text.toList = written ++ rest ∧
        byteLength written = (parseWithin limit text).position ∧
        Renders (parseWithin limit text).result written) ∧
      (parseWithin limit shown).failed = false ∧
        (parseWithin limit shown).position = byteLength shown.toList ∧
        (parseWithin limit shown).result = (parseWithin limit text).result := by
  obtain ⟨list, shallow, written, rest, remains, length, renders⟩ :=
    (nestedWithin_accepts_iff limit text _ _).mp ⟨succeeds, rfl, rfl⟩
  refine ⟨⟨written, rest, remains, length, renders⟩, ?_⟩
  refine (nestedWithin_accepts_iff limit shown _ _).mpr
    ⟨list, shallow, _, [], (List.append_nil _).symm, rfl, ?_⟩
  rw [canonical]
  exact renders.canonical

/-- Displaying and reading again is a normal form: without the blanks after its commas, what is
displayed for an accepted list is read back as a whole, it is not longer than what was read, and it
is the same if and only if no comma stood directly before a closing bracket. -/
theorem display_is_normal_form {text : String}
    (succeeds : (Kind.nested.parse text).failed = false) :
    ∃ written rest, text.toList = written ++ rest ∧
      byteLength written = (Kind.nested.parse text).position ∧
        let shown := String.ofList (compact ((Kind.nested.parse text).result.display id).toList)
        (Kind.nested.parse shown).isComplete = true ∧
          (Kind.nested.parse shown).result = (Kind.nested.parse text).result ∧
          shown.utf8ByteSize ≤ (Kind.nested.parse text).position ∧
          (shown = String.ofList written ↔ Tidy written) := by
  let shown := String.ofList (compact ((Kind.nested.parse text).result.display id).toList)
  have again := @parseWithin_canonical 256 text
  rw [← nested_parse_eq] at again
  have shown_eq : shown.toList = canonical (Kind.nested.parse text).result := String.toList_ofList
  obtain ⟨⟨written, rest, remains, length, renders⟩, success, position, result⟩ :=
    again succeeds shown_eq
  have complete := (Kind.nested.isComplete_iff shown).mpr ⟨success, position⟩
  refine ⟨written, rest, remains, length, complete, result, ?_, ?_⟩
  · rw [Text.utf8ByteSize_ofList]
    exact Nat.le_trans renders.byteLength_canonical_le (Nat.le_of_eq length)
  · rw [String.ofList_inj]
    constructor
    · intro same
      exact same ▸ renders.tidyItem_canonical.tidy
    · exact renders.eq_canonical

/-- A list with a comma to leave out, and with a word after it. -/
theorem untidy_list_again :
    (Kind.nested.parse "[a,[1,],]b").failed = false ∧
      (Kind.nested.parse "[a,[1]]").isComplete = true := by
  have succeeds : (Kind.nested.parse "[a,[1,],]b").failed = false := by decide +kernel
  obtain ⟨_, _, _, _, complete, _⟩ := display_is_normal_form succeeds
  have result : (Kind.nested.parse "[a,[1,],]b").result =
      .list [.value "a", .list [.value "1"]] := by
    decide +kernel
  rw [result] at complete
  exact ⟨succeeds, complete⟩

end Brackets

end Descent
