import Descent.Proofs.Unaffected

set_option autoImplicit false

/-!
A closing parenthesis after a pattern.

Every reader of the parts of a pattern is unaffected by a parenthesis that follows. So a whole
pattern with a parenthesis after it can be read in one of two ways (`readNodes_followed`): up to the
end of a group, which is that parenthesis, or to its own end, if a comment takes the parenthesis in.
-/

namespace Descent.Pattern

variable {ending : Ending}

open Read

theorem blanksAhead_append (inComment : Bool) (rest : List Char) :
    blanksAhead inComment (rest ++ ending.chars) =
      (blanksAhead inComment rest).or ending.chars.head? := by
  induction rest generalizing inComment with
  | nil =>
    have visible : isBlank ')' = false := isBlank_mark (by simp)
    cases ending <;> simp [Ending.chars, blanksAhead, visible]
  | cons char rest ih =>
    rw [List.cons_append, blanksAhead, blanksAhead, ih, ih]
    split
    · rfl
    · split <;> rfl

/-- Looking ahead finds a bracket or a hyphen before the ending or not at all. -/
theorem ahead_append_iff {mark : Char} (decisive : mark ∈ [']', '-']) (rest : List Char) :
    (blanksAhead false rest).or rest.head? = some mark ↔
      (blanksAhead false (rest ++ ending.chars)).or (rest ++ ending.chars).head? = some mark := by
  have other : ending.chars.head? ≠ some mark := by
    cases ending with
    | nothing => exact nofun
    | parenthesis =>
      rintro ⟨⟩
      simp at decisive
  rw [blanksAhead_append]
  cases rest with
  | nil => simp [blanksAhead, other]
  | cons char rest =>
    cases ahead : blanksAhead false (char :: rest) with
    | some found => simp
    | none =>
      -- Only blanks and comments are passed over, and neither begins with the mark.
      suffices char ≠ mark by
        cases ended : ending.chars.head? <;> simp_all
      rintro rfl
      have visible : isBlank char = false := isBlank_mark (List.mem_cons_of_mem _ decisive)
      have plain : char ≠ '#' := by
        rintro rfl
        simp at decisive
      simp [blanksAhead, visible, plain] at ahead

/-- What looking ahead gives. -/
def Input.second? (input : Input) : Option Char :=
  if input.ignoreBlanks then (blanksAhead false input.rest.tail).or input.rest.tail.head?
  else input.rest.tail.head?

theorem Read.second?_apply (input : Input) :
    Read.second? input = some (input.second?, input) := by
  change (if input.ignoreBlanks then
      (pure (blanksAhead false input.rest.tail <|> input.rest.tail.head?) : Read (Option Char))
    else pure input.rest.tail.head?) input = _
  rw [Input.second?]
  cases input.ignoreBlanks <;> cases blanksAhead false input.rest.tail <;> rfl

theorem Input.Followed.second?_iff {input whole : Input} (joined : input.Followed ending whole)
    {mark : Char} (decisive : mark ∈ [']', '-']) :
    input.second? = some mark ↔ whole.second? = some mark := by
  rw [Input.second?, Input.second?, joined.ignoreBlanks]
  rcases (joined.map_rest List.drop_nil (drop_append_chars 1)).rest with followed | ⟨ended, nothing⟩
  · simp only [List.drop_one] at followed
    rw [followed]
    split
    · exact ahead_append_iff decisive _
    · cases input.rest.tail with
      | nil => cases ending with
        | nothing => rfl
        | parenthesis =>
          refine ⟨nofun, ?_⟩
          rintro ⟨⟩
          simp at decisive
      | cons char rest => rfl
  · simp only [List.drop_one] at ended nothing
    rw [ended, nothing]

/-- Looking ahead finds a bracket or a hyphen in both inputs or in neither. -/
theorem Read.Unaffected.second? {β : Type} {next next' : Option Char → Read β}
    (rest : ∀ second second', (∀ mark ∈ [']', '-'], second = some mark ↔ second' = some mark) →
      Unaffected ending (next second) (next' second')) :
    Unaffected ending (Read.second? >>= next) (Read.second? >>= next') := by
  intro input whole joined value after read
  obtain ⟨second, between, looked, read⟩ := bind_eq_some_iff.mp read
  rw [Read.second?_apply] at looked
  cases looked
  obtain ⟨after', read', joined'⟩ :=
    rest _ _ (fun _ decisive => joined.second?_iff decisive) joined value after read
  exact ⟨after', bind_eq_some_iff.mpr ⟨_, _, second?_apply whole, read'⟩, joined'⟩

end Descent.Pattern
