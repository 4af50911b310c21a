import Descent.Proofs.Delimiters
import Descent.Proofs.Places
import Descent.Proofs.Separation
import Mathlib.Algebra.Ring.Nat

set_option autoImplicit false

/-!
Literals, one after the other.

A sequence of literals reads the texts that stand at a place. `Text.Follows` says that they do, with
what remains after them. A text stands only where something remains, so that the empty text is found
everywhere but at the end of the input (`follows_iff`); up to this, a sequence of literals is the
literal of all its texts together. The first text that does not follow is where it fails.
-/

namespace Descent

namespace Text

/-- The characters of several texts, one after the other. -/
def joined (texts : List String) : List Char := texts.flatMap String.toList

theorem byteLength_joined (texts : List String) :
    byteLength (joined texts) = (texts.map String.utf8ByteSize).sum := by
  induction texts with
  | nil => rfl
  | cons text texts ih =>
    rw [joined, List.flatMap_cons, byteLength_append, byteLength_toList, ← joined, ih,
      List.map_cons, List.sum_cons]

/-- Texts that stand at a place, each after the one before it and where something remains, and what
remains after them. -/
inductive Follows : List String → List Char → List Char → Prop where
  | nil (rest : List Char) : Follows [] rest rest
  | cons {text : String} {texts : List String} {rest after : List Char} :
      text.toList ++ rest ≠ [] → Follows texts rest after →
      Follows (text :: texts) (text.toList ++ rest) after

theorem Follows.rest_eq {texts : List String} {rest after : List Char}
    (follows : Follows texts rest after) : rest = joined texts ++ after := by
  induction follows with
  | nil rest => rfl
  | cons _ _ ih => rw [joined, List.flatMap_cons, List.append_assoc, ← joined, ← ih]

/-- Something remains for each of the texts if it does for the last one. -/
theorem follows_iff {texts : List String} {rest after : List Char} :
    Follows texts rest after ↔
      rest = joined texts ++ after ∧ (texts.getLast? = some "" → after ≠ []) := by
  constructor
  · intro follows
    refine ⟨follows.rest_eq, ?_⟩
    induction follows with
    | nil rest => simp
    | @cons text texts rest after more follows ih =>
      cases texts with
      | nil =>
        cases follows
        rintro last rfl
        obtain rfl : text = "" := by simpa using last
        exact more rfl
      | cons next texts => exact fun last => ih (by simpa using last)
  · rintro ⟨rfl, last⟩
    induction texts with
    | nil => exact .nil after
    | cons text texts ih =>
      rw [joined, List.flatMap_cons, List.append_assoc]
      refine .cons (fun none => ?_) (ih fun empty => last ?_)
      · -- If nothing remained for the first of them then all would be empty, also the last.
        obtain ⟨first, others, nothing⟩ :
            text = "" ∧ (∀ other ∈ texts, other = "") ∧ after = [] := by
          simpa [joined] using none
        have empty : ∀ other ∈ text :: texts, other = "" := by simpa using ⟨first, others⟩
        refine last ?_ nothing
        rw [List.getLast?_eq_some_getLast (by simp), empty _ (List.getLast_mem _)]
      · cases texts with
        | nil => simp at empty
        | cons next texts => simpa using empty

/-- Texts follow each other all the way, or there is a first one that does not. -/
theorem follows_or_missing (texts : List String) (rest : List Char) :
    (∃ after, Follows texts rest after) ∨
      ∃ found missing more after, texts = found ++ missing :: more ∧ Follows found rest after ∧
        (after = [] ∨ ¬missing.toList <+: after) := by
  induction texts generalizing rest with
  | nil => exact .inl ⟨rest, .nil rest⟩
  | cons text texts ih =>
    by_cases missing : rest = [] ∨ ¬text.toList <+: rest
    · exact .inr ⟨[], text, texts, rest, rfl, .nil rest, missing⟩
    · obtain ⟨remains, rest, rfl⟩ : rest ≠ [] ∧ text.toList <+: rest := by simpa using missing
      rcases ih rest with ⟨after, follows⟩ | ⟨found, missing, more, after, rfl, follows, absent⟩
      · exact .inl ⟨after, .cons remains follows⟩
      · exact .inr ⟨text :: found, missing, more, after, rfl, .cons remains follows, absent⟩

end Text

namespace Parser

variable {R : Type → Type} {grammar : Grammar R} {texts found more : List String}
  {missing : String} {state : State String} {rest : List Char}

/-- The literals of several texts. -/
def literals (texts : List String) : List (Parser R String) := texts.map .literal

/-- The first of several literals is read, and the others after it. -/
theorem applyAll_literals (grammar : Grammar R) (texts : List String) {text : String}
    (running : state.failed = false) (remains : state.rest = text.toList ++ rest)
    (something : text.toList ++ rest ≠ []) :
    ∃ next : State String, state.Reads text.toList rest .empty next ∧
      applyAll grammar (literals (text :: texts)) state =
        (applyAll grammar (literals texts) next).prepend (.value text) := by
  have first : state.Reads text.toList rest (.value text)
      ((Parser.literal text).apply grammar state) :=
    literal_reads running remains (remains ▸ something)
  refine ⟨((Parser.literal text).apply grammar state).cleared, first.withResult, ?_⟩
  have item := first.result
  have applied : applyAll grammar (literals (text :: texts)) state =
      ((Parser.literal text).apply grammar state).followedBy fun after =>
        (applyAll grammar (literals texts) after.cleared).prepend after.result := rfl
  rw [applied, State.followedBy_of_running (first.failed.trans running), item]

theorem literals_read (grammar : Grammar R) (running : state.failed = false)
    (follows : Text.Follows texts state.rest rest) :
    state.Reads (Text.joined texts) rest (.list (texts.map .value))
      (applyAll grammar (literals texts) state) := by
  generalize start : state.rest = whole at follows
  induction follows generalizing state with
  | nil rest => exact .nothing start
  | @cons text texts rest after something follows ih =>
    obtain ⟨next, first, applied⟩ := applyAll_literals grammar texts running start something
    have success := first.failed.trans running
    have others := ih success first.rest_eq
    rw [applied]
    simpa [Text.joined] using (first.trans others.to_cleared).prepend running (.value text)

theorem literals_stop (grammar : Grammar R) (running : state.failed = false)
    (follows : Text.Follows found state.rest rest)
    (absent : rest = [] ∨ ¬missing.toList <+: rest) :
    state.Stops
      (.ofLiteral missing rest (state.position + Text.byteLength (Text.joined found)))
      (Text.joined found) rest
      (applyAll grammar (literals (found ++ missing :: more)) state) := by
  generalize start : state.rest = whole at follows
  induction follows generalizing state with
  | nil rest =>
    have refused : state.Stops (.ofLiteral missing state.rest state.position) [] state.rest
        ((Parser.literal missing).apply grammar state) := literal_missing running (start ▸ absent)
    have applied : applyAll grammar (literals (missing :: more)) state =
        ((Parser.literal missing).apply grammar state).cleared :=
      State.followedBy_of_failed refused.failed _
    rw [List.nil_append, applied]
    simpa [Text.joined, start] using refused.cleared
  | @cons text texts rest after something follows ih =>
    obtain ⟨next, first, applied⟩ :=
      applyAll_literals grammar (texts ++ missing :: more) running start something
    have stops := ih (first.failed.trans running) absent first.rest_eq
    have both := first.trans_stops stops
    rw [List.cons_append, applied, State.prepend_of_failed _ both.failed]
    simpa [Text.joined, Text.byteLength_append, first.position, Nat.add_assoc] using both

/-- A text that is not empty is read as its own literal. -/
theorem literal_reads_itself (grammar : Grammar R) {text : String} (nonempty : text ≠ "") :
    (Parser.literal text).parse grammar text =
      ⟨.place text text.utf8ByteSize, .value text, none, 0⟩ := by
  have remains : (State.start text : State String).rest = text.toList := rest_start text
  have reads : (State.start text).Reads text.toList [] (.value text)
      ((Parser.literal text).parse grammar text) :=
    literal_reads rfl (by simpa using remains) (by simpa [remains] using nonempty)
  have whole : (Text.Cursor.place text 0).rest = text.toList := remains
  rw [reads.after_eq, State.consume, State.mk.injEq]
  refine ⟨Text.Cursor.ext rfl ?_, rfl, rfl, rfl⟩
  simp [State.start, whole, Text.byteLength_toList]

/-- A sequence of literals succeeds if the texts stand at the place, joined, and no empty text comes
last at the end of the input. Then it yields the texts and stands after them. Otherwise it stands
after those that come before the first text that is not there, or for which nothing remains. So a
text is read as its own literal unless it is empty. -/
theorem literals_in_sequence (grammar : Grammar R) (texts : List String) {state : State String}
    (running : state.failed = false) :
    let after := (Parser.sequence (.ofList (literals texts))).apply grammar state
    (after.failed = false ↔ Text.joined texts <+: state.rest ∧
        (texts.getLast? = some "" → Text.joined texts ≠ state.rest)) ∧
      (after.failed = false →
        after.position = state.position + (texts.map String.utf8ByteSize).sum ∧
          after.result = .list (texts.map .value)) ∧
      (after.failed = true → ∃ found missing more rest, texts = found ++ missing :: more ∧
        state.rest = Text.joined found ++ rest ∧ (found.getLast? = some "" → rest ≠ []) ∧
        (rest = [] ∨ ¬missing.toList <+: rest) ∧
        after.position = state.position + (found.map String.utf8ByteSize).sum ∧
        after.error = some (.ofLiteral missing rest after.position)) ∧
      (∀ text : String, text ≠ "" → (Parser.literal text).parse grammar text =
        ⟨.place text text.utf8ByteSize, .value text, none, 0⟩) ∧
      (Parser.literal "").parse grammar "" =
        ⟨.place "" 0, .empty, some (.ofLiteral "" [] 0), 0⟩ := by
  intro after
  rw [← and_assoc, ← and_assoc]
  refine ⟨?_, fun text => literal_reads_itself grammar, rfl⟩
  have applied : after = applyAll grammar (literals texts) state.cleared :=
    apply_sequence grammar _ state running
  have start : (state.cleared : State String).failed = false := running
  have reads {rest : List Char} (follows : Text.Follows texts state.rest rest) :=
    literals_read grammar start follows
  rw [← applied] at reads
  rcases Text.follows_or_missing texts state.rest with
    ⟨rest, follows⟩ | ⟨found, missing, more, rest, rfl, follows, absent⟩
  · have success : after.failed = false := (reads follows).failed.trans running
    obtain ⟨remains, last⟩ := Text.follows_iff.mp follows
    have stand : Text.joined texts <+: state.rest ∧
        (texts.getLast? = some "" → Text.joined texts ≠ state.rest) := by
      refine ⟨⟨rest, remains.symm⟩, fun empty whole => last empty ?_⟩
      simpa [whole] using remains
    have position : after.position = state.position + _ := (reads follows).position
    rw [Text.byteLength_joined] at position
    exact ⟨⟨iff_of_true success stand, fun _ => ⟨position, (reads follows).result⟩⟩,
      fun failed => absurd (failed.symm.trans success) (by simp)⟩
  · have stops : (state.cleared : State String).Stops _ _ rest
        (applyAll grammar (literals (found ++ missing :: more)) state.cleared) :=
      literals_stop grammar start follows absent
    rw [← applied] at stops
    have failed : after.failed = true := stops.failed
    obtain ⟨remains, last⟩ := Text.follows_iff.mp follows
    have position : after.position = state.position + _ := stops.position
    have error : after.error = some (.ofLiteral missing rest after.position) := by
      rw [position]
      exact stops.error
    rw [Text.byteLength_joined] at position
    refine ⟨⟨iff_of_false (by simp [failed]) fun stand => ?_, fun success => ?_⟩, fun _ => ?_⟩
    · -- If all texts stood there then they would have been read.
      obtain ⟨⟨rest, remains⟩, last⟩ := stand
      have follows := Text.follows_iff.mpr ⟨remains.symm, fun empty nothing => last empty ?_⟩
      · exact absurd ((reads follows).failed.trans running) (by simp [failed])
      · simpa [nothing] using remains
    · exact absurd (failed.symm.trans success) (by simp)
    · exact ⟨found, missing, more, rest, rfl, remains, last, absent, position, error⟩

end Parser

namespace Brackets

/-- Literals of one and two bytes and of none are read one after the other; and after an accent that
ends the text, the empty text is no longer found. -/
theorem literals_over_accent :
    (∃ after : State String, after = (Parser.sequence (.ofList (Parser.literals ["é", "", "a"]))).apply
        grammar (.start "éab") ∧ after.failed = false ∧ after.position = 3 ∧
        after.result = .list [.value "é", .value "", .value "a"]) ∧
      ((Parser.sequence (.ofList (Parser.literals ["é", ""]))).apply grammar
        (.start "é")).failed = true := by
  have running (text : String) : (State.start text : State String).failed = false := rfl
  obtain ⟨succeeds, gives, _⟩ :=
    Parser.literals_in_sequence grammar ["é", "", "a"] (running "éab")
  obtain ⟨fails, _⟩ := Parser.literals_in_sequence grammar ["é", ""] (running "é")
  constructor
  · have success := succeeds.mpr ⟨by decide, by decide⟩
    exact ⟨_, rfl, success, gives success⟩
  · rw [← Bool.not_eq_false, fails]
    decide

/-- The empty text stands at the end of every text, but its literal is refused there. -/
theorem empty_literal_at_end :
    (¬∀ (texts : List String) (state : State String), state.failed = false →
        Text.IsPlace state.text state.position →
        (((Parser.sequence (.ofList (Parser.literals texts))).apply grammar state).failed = false ↔
          Text.joined texts <+: state.rest)) ∧
      ¬∀ text : String, ((Parser.literal text).parse grammar text).failed = false := by
  constructor
  · intro claimed
    have same := claimed [""] (.start "") rfl String.Pos.Raw.isValid_zero
    exact absurd (same.mpr List.nil_prefix) (by decide +kernel)
  · intro claimed
    exact absurd (claimed "") (by decide +kernel)

end Brackets

end Descent
