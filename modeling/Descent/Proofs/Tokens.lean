import Descent.Proofs.Delimiters
import Mathlib.Data.List.Chain

set_option autoImplicit false

/-!
What the grammar of tokens reads, and where it fails.

The loop over words and numbers reads the letters and digits that stand at its start, all of them and
nothing more (`words_read`, by induction on the bound of the loop). So all is decided by the first
character and by the one after this run.
-/

namespace Descent

theorem CharRun.isAlphanum_of_accepts {kind : CharRun} {char : Char}
    (accepted : kind.accepts char = true) : char.isAlphanum = true := by
  cases kind <;> simp_all [CharRun.accepts, Char.isAlphanum]

theorem CharRun.exists_accepts {char : Char} (alphanum : char.isAlphanum = true) :
    ∃ kind : CharRun, kind.accepts char = true := by
  rcases Bool.or_eq_true_iff.mp alphanum with alpha | digit
  · exact ⟨.letters, alpha⟩
  · exact ⟨.digits, digit⟩

theorem CharRun.stops_of_isAlphanum {rest : List Char}
    (stops : rest.head?.any Char.isAlphanum = false) (kind : CharRun) :
    rest.head?.any kind.accepts = false := by
  cases next : rest.head? with
  | none => rfl
  | some char =>
    rw [next] at stops
    by_cases accepted : kind.accepts char = true
    · simp [isAlphanum_of_accepts accepted] at stops
    · simpa using accepted

/-- Letters and digits begin with one kind of them, as long as possible. -/
theorem CharRun.exists_word {run : List Char} (nonempty : run ≠ [])
    (all : ∀ char ∈ run, char.isAlphanum = true) :
    ∃ (kind : CharRun) (word text : List Char), run = word ++ text ∧ word ≠ [] ∧
      (∀ char ∈ word, kind.accepts char = true) ∧ text.head?.any kind.accepts = false := by
  cases run with
  | nil => contradiction
  | cons char run =>
    obtain ⟨kind, accepted⟩ := exists_accepts (all char (by simp))
    refine ⟨kind, _, _, List.takeWhile_append_dropWhile.symm, ?_,
      List.all_eq_true.mp List.all_takeWhile, Parser.stops_dropWhile _ _⟩
    simp [accepted]

namespace Brackets

/-- Pieces of a text that are letters or digits by turns, so that each is as long as possible. -/
structure Alternates (pieces : List (CharRun × List Char)) (text : List Char) : Prop where
  each : ∀ piece ∈ pieces, piece.2 ≠ [] ∧ ∀ char ∈ piece.2, piece.1.accepts char = true
  turns : pieces.IsChain fun first second => first.1 ≠ second.1
  joined : pieces.flatMap Prod.snd = text

theorem Alternates.cons {pieces : List (CharRun × List Char)} {kind : CharRun}
    {word text : List Char} (nonempty : word ≠ [])
    (accepted : ∀ char ∈ word, kind.accepts char = true) (others : Alternates pieces text)
    (stops : text.head?.any kind.accepts = false) :
    Alternates ((kind, word) :: pieces) (word ++ text) := by
  refine ⟨List.forall_mem_cons.mpr ⟨⟨nonempty, accepted⟩, others.each⟩, ?_, ?_⟩
  · refine List.isChain_cons.mpr ⟨fun next head => ?_, others.turns⟩
    -- The next piece begins with what stops this one.
    obtain ⟨pieces, rfl⟩ := List.head?_eq_some_iff.mp head
    obtain ⟨filled, accepts⟩ := others.each next (by simp)
    rintro rfl
    rw [← others.joined, List.flatMap_cons] at stops
    cases word : next.2 with
    | nil => exact filled word
    | cons char word =>
      rw [word] at accepts stops
      simp [accepts] at stops
  · rw [List.flatMap_cons, others.joined]

def tokenList (pieces : List (CharRun × List Char)) : Output String :=
  .list (pieces.map fun piece => .value (String.ofList piece.2))

end Brackets

namespace Parser

open Brackets (Alternates tokenList)

variable {R : Type → Type} {enter : Enter R} {scope : Address} {state : State String}

abbrev word : Parser R String := .choice (.ofList [letters, digits])

theorem value_word (running : state.failed = false) :
    (traceWith enter scope word state).value =
      (chooseWith enter scope (.ofList [letters, digits]) state).value :=
  (value_unlessFailed state _).trans (if_neg (by simp [running]))

/-- The loop ends where the letters and digits do. -/
theorem words_read {run rest : List Char} {bound : Nat} (running : state.failed = false)
    (remains : state.rest = run ++ rest) (all : ∀ char ∈ run, char.isAlphanum = true)
    (stops : rest.head?.any Char.isAlphanum = false)
    (bounded : Text.byteLength state.rest < bound) :
    ∃ pieces, Alternates pieces run ∧
      state.Reads run rest (tokenList pieces)
        (repeatFrom (traceWith enter scope word) bound state).value := by
  induction bound generalizing run state with
  | zero => omega
  | succ bound ih =>
    by_cases nonempty : run = []
    · subst nonempty
      have rejected : (traceWith enter scope word state).value.Rejected := by
        rw [value_word running]
        exact choose_word_rejects running fun kind => by
          simpa [remains] using CharRun.stops_of_isAlphanum stops kind
      rw [repeatFrom_of_rejected rejected]
      exact ⟨[], ⟨by simp, .nil, rfl⟩, .nothing remains⟩
    · obtain ⟨kind, first, others, rfl, filled, accepted, ends⟩ := CharRun.exists_word nonempty all
      -- The first word is the longest of its kind, also if it is the last one.
      have follows : (others ++ rest).head?.any kind.accepts = false := by
        cases others with
        | nil => exact CharRun.stops_of_isAlphanum stops kind
        | cons char others => exact ends
      have item : state.Reads first (others ++ rest) (.value (String.ofList first))
          (traceWith enter scope word state).value := by
        rw [value_word running]
        exact choose_word_reads running (by simpa using remains) filled accepted follows
      have success := item.failed.trans running
      have shorter := Nat.lt_of_lt_of_le (item.shortens filled) (Nat.le_of_lt_succ bounded)
      obtain ⟨pieces, alternates, reads⟩ := @ih (traceWith enter scope word state).value.cleared others
        success item.rest_eq (fun char member => all char (by simp [member])) shorter
      rw [repeatFrom_of_progress success (item.moves filled), item.result]
      exact ⟨(kind, first) :: pieces, alternates.cons filled accepted ends,
        (item.trans reads).prepend running _⟩

/-- Between its brackets a row of words and numbers is read as far as it goes. -/
theorem many_words_read {run rest : List Char} (running : state.failed = false)
    (remains : state.rest = run ++ rest) (all : ∀ char ∈ run, char.isAlphanum = true)
    (stops : rest.head?.any Char.isAlphanum = false) :
    ∃ pieces, Alternates pieces run ∧
      state.Reads run rest (tokenList pieces) (traceWith enter scope (.many word) state).value := by
  have read : ∃ pieces, Alternates pieces run ∧
      (state.cleared : State String).Reads run rest (tokenList pieces)
        (repeatFrom (traceWith enter scope word) (stepBound state) state.cleared).value :=
    words_read running remains all stops (byteLength_rest_lt_stepBound state)
  obtain ⟨pieces, alternates, reads⟩ := read
  refine ⟨pieces, alternates, ?_⟩
  rw [traceWith, value_application, value_unlessFailed, if_neg (by simp [running])]
  exact reads.of_cleared

theorem value_errorMap_of_running {parser : Parser R String}
    {message : Failure → Nat → String}
    (success : (traceWith enter scope parser state).value.failed = false) :
    (traceWith enter scope (.errorMap parser message) state).value =
      (traceWith enter scope parser state).value := by
  have none : (traceWith enter scope parser state).value.error = none := by
    simpa [State.failed] using success
  simp [traceWith, none]

theorem errorMap_stops (message : Failure → Nat → String) {parser : Parser R String}
    {failure : Failure} {written rest : List Char} {position : Nat}
    (stops : state.Stops failure written rest (traceWith enter scope parser state).value)
    (place : state.position + Text.byteLength written = position) :
    state.Stops (.mapped (message failure position) position failure) written rest
      (traceWith enter scope (.errorMap parser message) state).value := by
  rw [traceWith, value_application, Traced.value_bind, stops.error, stops.position, place]
  exact stops.withError _

end Parser

namespace Brackets

open Descent.Parser (Enter traceWith enterBody)

/-- How the parse ends for the lack of a bracket. -/
def tokensFailure (bracket : String) (rest : List Char) (position : Nat) : Failure :=
  .mapped
    ("expected a parenthesized token run at index " ++ toString position ++ ": " ++
      (Failure.ofLiteral bracket rest position).message)
    position (.ofLiteral bracket rest position)

@[simp] theorem isFatal_tokensFailure (bracket : String) (rest : List Char) (position : Nat) :
    (tokensFailure bracket rest position).isFatal = false :=
  Failure.isFatal_ofLiteral bracket rest position

section Anywhere

variable {R : Type → Type} {enter : Enter R} {scope : Address} {state : State String}

theorem tokens_stops_at_once (running : state.failed = false)
    (other : state.rest.head? ≠ some '(') :
    state.Stops (tokensFailure "(" state.rest state.position) [] state.rest
      (traceWith enter scope tokens state).value := by
  have opens : "(".toList = ['('] := rfl
  rw [tokens, traceWith]
  exact Parser.errorMap_stops tokensMessage
    (Parser.between_stops_at_once opens running other) (Nat.add_zero _)

/-- After the opening bracket all letters and digits are read. Then all depends on what follows. -/
theorem tokens_enters {run rest : List Char} (running : state.failed = false)
    (remains : state.rest = '(' :: (run ++ rest)) (all : ∀ char ∈ run, char.isAlphanum = true)
    (stops : rest.head?.any Char.isAlphanum = false) :
    (∀ {after : List Char}, rest = ')' :: after →
      ∃ pieces, Alternates pieces run ∧
        state.Reads ('(' :: (run ++ [')'])) after (tokenList pieces)
          (traceWith enter scope tokens state).value) ∧
    (rest.head? ≠ some ')' →
      state.Stops (tokensFailure ")" rest (state.position + Text.byteLength ('(' :: run)))
        ('(' :: run) rest (traceWith enter scope tokens state).value) := by
  have opens : "(".toList = ['('] := rfl
  have closes : ")".toList = [')'] := rfl
  obtain ⟨inner, opened, _, decides⟩ :=
    Parser.between_enters enter scope (.many Parser.word) opens closes running remains
  obtain ⟨pieces, alternates, reads⟩ :=
    Parser.many_words_read (opened.failed.trans running) opened.rest_eq all stops
  obtain ⟨accepts, refuses⟩ := decides reads
  rw [tokens, traceWith]
  refine ⟨fun closed => ⟨pieces, alternates, ?_⟩, fun other => ?_⟩
  · have whole := accepts closed
    have success := whole.failed.trans running
    rwa [Parser.value_errorMap_of_running success]
  · exact Parser.errorMap_stops tokensMessage (refuses other) rfl

end Anywhere

/-- The letters and digits after the first character of a text. -/
def tokenRun (text : String) : List Char := text.toList.tail.takeWhile Char.isAlphanum

def afterTokenRun (text : String) : List Char := text.toList.tail.dropWhile Char.isAlphanum

/-- The ways in which the parse of a text as tokens ends. -/
inductive TokensOutcome (text : String) (after : State String) : Prop where
  | unopened (other : text.toList.head? ≠ some '(')
      (stops : (State.start text : State String).Stops (tokensFailure "(" text.toList 0) []
        text.toList after)
  | unclosed (opened : text.toList.head? = some '(') (other : (afterTokenRun text).head? ≠ some ')')
      (stops : (State.start text : State String).Stops
        (tokensFailure ")" (afterTokenRun text) (Text.byteLength (tokenRun text) + 1))
        ('(' :: tokenRun text) (afterTokenRun text) after)
  | complete {rest : List Char} {pieces : List (CharRun × List Char)}
      (opened : text.toList.head? = some '(') (closed : afterTokenRun text = ')' :: rest)
      (alternates : Alternates pieces (tokenRun text))
      (reads : (State.start text : State String).Reads ('(' :: (tokenRun text ++ [')'])) rest
        (tokenList pieces) after)

theorem place_after_run (text : String) :
    (State.start text : State String).position + Text.byteLength ('(' :: tokenRun text) =
      Text.byteLength (tokenRun text) + 1 := (Nat.zero_add _).trans (Nat.add_comm _ _)

theorem tokens_outcome (text : String) : TokensOutcome text (Kind.tokens.parse text) := by
  obtain ⟨levels, _, parsed⟩ := Parser.parse_eq_traceLevels grammar tokens text
  have start : (State.start text : State String).rest = text.toList := Parser.rest_start text
  have parsed : Kind.tokens.parse text =
      (traceWith (enterBody grammar levels) [] tokens (.start text)).value := parsed
  rw [parsed]
  by_cases opened : text.toList.head? = some '('
  · obtain ⟨chars, remains⟩ := List.head?_eq_some_iff.mp opened
    have split : chars = tokenRun text ++ afterTokenRun text := by
      rw [tokenRun, afterTokenRun, remains, List.tail_cons, List.takeWhile_append_dropWhile]
    have remains : (State.start text : State String).rest =
        '(' :: (tokenRun text ++ afterTokenRun text) := by rw [start, remains, ← split]
    have stops : (afterTokenRun text).head?.any Char.isAlphanum = false := Parser.stops_dropWhile _ _
    have run : ∀ char ∈ tokenRun text, char.isAlphanum = true :=
      List.all_eq_true.mp List.all_takeWhile
    obtain ⟨accepts, refuses⟩ := tokens_enters rfl remains run stops
    by_cases closed : (afterTokenRun text).head? = some ')'
    · obtain ⟨rest, closed⟩ := List.head?_eq_some_iff.mp closed
      obtain ⟨pieces, alternates, reads⟩ := accepts closed
      exact .complete opened closed alternates reads
    · exact .unclosed opened closed (place_after_run text ▸ refuses closed)
  · refine .unopened opened ?_
    rw [← start] at opened ⊢
    exact tokens_stops_at_once rfl opened

/-- A text is a row of tokens if it begins with a bracket and one stands right after the letters and
digits that follow. The row is cut where letters and digits meet. Otherwise the missing bracket is
reported at its place. -/
theorem tokens_parse (text : String) :
    ((Kind.tokens.parse text).failed = false ↔
        text.toList.head? = some '(' ∧ (afterTokenRun text).head? = some ')') ∧
      ((Kind.tokens.parse text).failed = false →
        (Kind.tokens.parse text).position = Text.byteLength (tokenRun text) + 2 ∧
          ∃ pieces, Alternates pieces (tokenRun text) ∧
            (Kind.tokens.parse text).result = tokenList pieces) ∧
      (text.toList.head? ≠ some '(' →
        (Kind.tokens.parse text).FailsAt (tokensFailure "(" text.toList 0) 0) ∧
      (text.toList.head? = some '(' → (afterTokenRun text).head? ≠ some ')' →
        (Kind.tokens.parse text).FailsAt
          (tokensFailure ")" (afterTokenRun text) (Text.byteLength (tokenRun text) + 1))
          (Text.byteLength (tokenRun text) + 1)) ∧
      (Kind.tokens.parse text).failedFatally = false := by
  cases tokens_outcome text with
  | unopened other stops =>
    have fails : (Kind.tokens.parse text).FailsAt (tokensFailure "(" text.toList 0) 0 :=
      stops.failsAt rfl
    simp [stops.failed, other, fails, fails.failedFatally_eq]
  | unclosed opened other stops =>
    have fails := stops.failsAt (place_after_run text)
    simp [stops.failed, opened, other, fails, fails.failedFatally_eq]
  | complete opened closed alternates reads =>
    have success : (Kind.tokens.parse text).failed = false := reads.failed
    have position : (Kind.tokens.parse text).position = Text.byteLength (tokenRun text) + 2 := by
      have last : Text.byteLength [')'] = 1 := rfl
      rw [reads.position, ← List.cons_append, Text.byteLength_append, ← Nat.add_assoc,
        place_after_run, last]
    exact ⟨by simp [success, opened, closed], fun _ => ⟨position, _, alternates, reads.result⟩,
      absurd opened, fun _ other => absurd (by simp [closed]) other,
      State.failedFatally_of_running success⟩

example : (Kind.tokens.parse "(awecho123xd)").result =
    .list [.value "awecho", .value "123", .value "xd"] := by
  decide +kernel

end Brackets

end Descent
