import Descent.Pattern.Reader
import Mathlib.Data.List.Basic
import Mathlib.Tactic.Common

set_option autoImplicit false

/-!
Reading a pattern that something follows.

A reader of a part of a pattern is compared with a reader of the same part where an ending follows:
nothing, or the parenthesis that closes a group. It is unaffected (`Read.Unaffected`) if it gives the
same value there and leaves the same, with the ending after it; only a comment passes over the
parenthesis (`Input.Followed`). What is unaffected can be put together. With nothing as the ending
this says that more fuel makes no difference.
-/

namespace Descent.Pattern

/-- What may stand after a pattern. -/
inductive Ending where
  | nothing
  | parenthesis

/-- The characters of an ending. -/
def Ending.chars : Ending → List Char
  | .nothing => []
  | .parenthesis => [')']

variable {ending : Ending}

/-- An input, and the same input with an ending after it. Where nothing else is left, the ending may
have been passed over. -/
structure Input.Followed (ending : Ending) (input whole : Input) : Prop where
  rest : whole.rest = input.rest ++ ending.chars ∨ input.rest = [] ∧ whole.rest = []
  ignoreBlanks : whole.ignoreBlanks = input.ignoreBlanks
  names : whole.names = input.names

namespace Input.Followed

variable {input whole : Input}

theorem eq (joined : input.Followed .nothing whole) : whole = input := by
  obtain ⟨rest, ignoreBlanks, names⟩ := joined
  have rest : whole.rest = input.rest := by
    rcases rest with followed | ⟨ended, nothing⟩
    · exact followed.trans (List.append_nil _)
    · exact nothing.trans ended.symm
  cases whole
  cases input
  subst rest ignoreBlanks names
  rfl

theorem rest_of_cons (joined : input.Followed ending whole) {char : Char} {rest : List Char}
    (remains : input.rest = char :: rest) : whole.rest = char :: (rest ++ ending.chars) := by
  rcases joined.rest with followed | ⟨nothing, -⟩
  · rw [followed, remains, List.cons_append]
  · rw [nothing] at remains
    cases remains

theorem rest_of_nil (joined : input.Followed ending whole) (ended : input.rest = []) :
    whole.rest = [')'] ∨ whole.rest = [] := by
  rcases joined.rest with followed | ⟨-, nothing⟩
  · rw [followed, ended]
    cases ending with
    | nothing => exact .inr rfl
    | parenthesis => exact .inl rfl
  · exact .inr nothing

/-- What is left may be shortened in any way that passes over the ending only after all else. -/
theorem map_rest (joined : input.Followed ending whole) {shorten : List Char → List Char}
    (nil : shorten [] = [])
    (append : ∀ rest, shorten (rest ++ ending.chars) = shorten rest ++ ending.chars ∨
      shorten rest = [] ∧ shorten (rest ++ ending.chars) = []) :
    Input.Followed ending { input with rest := shorten input.rest }
      { whole with rest := shorten whole.rest } := by
  refine ⟨?_, joined.ignoreBlanks, joined.names⟩
  rcases joined.rest with followed | ⟨ended, nothing⟩
  · rw [followed]
    exact append input.rest
  · rw [ended, nothing, nil]
    exact .inr ⟨rfl, rfl⟩

theorem length_le (joined : input.Followed ending whole) :
    input.rest.length ≤ whole.rest.length := by
  rcases joined.rest with followed | ⟨ended, -⟩
  · rw [followed, List.length_append]
    exact Nat.le_add_right _ _
  · rw [ended]
    exact Nat.zero_le _

end Input.Followed

/-- The characters that decide what a reader does next are no blanks. -/
theorem isBlank_mark {mark : Char} (decisive : mark ∈ [')', ']', '-']) : isBlank mark = false := by
  have none : isBlank ')' = false ∧ isBlank ']' = false ∧ isBlank '-' = false := by
    decide +kernel
  rcases List.mem_cons.mp decisive with rfl | decisive
  · exact none.1
  rcases List.mem_cons.mp decisive with rfl | decisive
  · exact none.2.1
  · exact List.mem_singleton.mp decisive ▸ none.2.2

theorem drop_append_chars (count : Nat) (rest : List Char) :
    (rest ++ ending.chars).drop count = rest.drop count ++ ending.chars ∨
      rest.drop count = [] ∧ (rest ++ ending.chars).drop count = [] := by
  by_cases within : count ≤ rest.length
  · exact .inl (List.drop_append_of_le_length within)
  · have short : ending.chars.length ≤ 1 := by cases ending <;> decide
    refine .inr ⟨List.drop_of_length_le (by omega), List.drop_of_length_le ?_⟩
    rw [List.length_append]
    omega

namespace Read

variable {α β : Type}

/-- Whenever one reader succeeds on an input, another one gives the same value on the input with an
ending after it, and leaves the same with the ending after it. -/
def UnaffectedAt (ending : Ending) (input whole : Input) (reader longer : Read α) : Prop :=
  ∀ value after, reader input = some (value, after) →
    ∃ after', longer whole = some (value, after') ∧ after.Followed ending after'

/-- Whatever the input, an ending after it makes no difference. -/
def Unaffected (ending : Ending) (reader longer : Read α) : Prop :=
  ∀ ⦃input whole⦄, input.Followed ending whole → UnaffectedAt ending input whole reader longer

theorem bind_eq_some_iff {reader : Read α} {next : α → Read β} {input after : Input} {value : β} :
    (reader >>= next) input = some (value, after) ↔
      ∃ first between, reader input = some (first, between) ∧
        next first between = some (value, after) := by
  constructor
  · intro read
    obtain ⟨⟨first, between⟩, step, rest⟩ := Option.bind_eq_some_iff.mp read
    exact ⟨first, between, step, rest⟩
  · rintro ⟨first, between, step, rest⟩
    exact Option.bind_eq_some_iff.mpr ⟨(first, between), step, rest⟩

variable {input whole : Input} {reader longer : Read α} {next next' : α → Read β}

theorem UnaffectedAt.bind (first : UnaffectedAt ending input whole reader longer)
    (rest : ∀ value, Unaffected ending (next value) (next' value)) :
    UnaffectedAt ending input whole (reader >>= next) (longer >>= next') := by
  intro value after read
  obtain ⟨item, between, step, read⟩ := bind_eq_some_iff.mp read
  obtain ⟨between', step', joined⟩ := first item between step
  obtain ⟨after', read', joined⟩ := rest item joined value after read
  exact ⟨after', bind_eq_some_iff.mpr ⟨item, between', step', read'⟩, joined⟩

theorem UnaffectedAt.set (joined : input.Followed ending whole) (before before' : Input) :
    UnaffectedAt ending before before' (MonadStateOf.set input : Read PUnit)
      (MonadStateOf.set whole) := by
  intro value after read
  cases read
  exact ⟨whole, rfl, joined⟩

theorem Unaffected.bind (first : Unaffected ending reader longer)
    (rest : ∀ value, Unaffected ending (next value) (next' value)) :
    Unaffected ending (reader >>= next) (longer >>= next') :=
  fun _ _ joined => (first joined).bind rest

theorem Unaffected.pure (value : α) : Unaffected ending (Pure.pure value) (Pure.pure value) := by
  intro input whole joined value after read
  cases read
  exact ⟨whole, rfl, joined⟩

theorem Unaffected.refuse (longer : Read α) : Unaffected ending Read.refuse longer :=
  fun _ _ _ _ _ read => nomatch read

theorem Unaffected.get {next next' : Input → Read β}
    (rest : ∀ ⦃input whole⦄, input.Followed ending whole →
      UnaffectedAt ending input whole (next input) (next' whole)) :
    Unaffected ending (MonadState.get >>= next) (MonadState.get >>= next') :=
  fun _ _ joined => rest joined

theorem Unaffected.modify {change change' : Input → Input}
    (keeps : ∀ ⦃input whole⦄, input.Followed ending whole →
      (change input).Followed ending (change' whole)) :
    Unaffected ending (modify change) (modify change') := by
  intro input whole joined value after read
  cases read
  exact ⟨change' whole, rfl, keeps joined⟩

/-- The next character is the same, if there is one; at the end a parenthesis may come instead. -/
theorem Unaffected.next? {next next' : Option Char → Read β}
    (inside : ∀ char, Unaffected ending (next (some char)) (next' (some char)))
    (parenthesis : Unaffected ending (next none) (next' (some ')')))
    (ended : Unaffected ending (next none) (next' none)) :
    Unaffected ending (Read.next? >>= next) (Read.next? >>= next') := by
  intro input whole joined
  change UnaffectedAt ending input whole (next input.rest.head?) (next' whole.rest.head?)
  cases remaining : input.rest with
  | nil =>
    rcases joined.rest_of_nil remaining with remaining' | remaining'
    · rw [remaining']
      exact parenthesis joined
    · rw [remaining']
      exact ended joined
  | cons char rest =>
    rw [joined.rest_of_cons remaining]
    exact inside char joined

end Read

end Descent.Pattern
