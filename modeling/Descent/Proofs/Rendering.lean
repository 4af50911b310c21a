import Descent.Brackets

set_option autoImplicit false

/-!
How outputs are written with brackets.

A list is written as its items with commas between them; a comma after the last one may be there or
not. `Row` follows the loop that reads such items, one item and one comma at a time.
-/

namespace Descent.Brackets

/-- A text that is written for an output. -/
inductive Renders : Output String → List Char → Prop where
  | word {word : List Char} (kind : CharRun) :
      word ≠ [] → (∀ char ∈ word, kind.accepts char = true) →
      Renders (.value (String.ofList word)) word
  | list {pieces : List (Output String × List Char)} {trailing : List Char} :
      (∀ piece ∈ pieces, Renders piece.1 piece.2) →
      (trailing = [] ∨ trailing = [','] ∧ pieces ≠ []) →
      Renders (.list (pieces.map Prod.fst))
        ('[' :: ([','].intercalate (pieces.map Prod.snd) ++ trailing ++ [']']))

/-- Texts with single commas between them, and at most one comma after the last. -/
inductive Row : List (List Char) → List Char → Prop where
  | none : Row [] []
  | last (word : List Char) : Row [word] word
  | more (word : List Char) {words : List (List Char)} {row : List Char} :
      Row words row → Row (word :: words) (word ++ ',' :: row)

theorem row_iff {words : List (List Char)} {row : List Char} :
    Row words row ↔ ∃ trailing, (trailing = [] ∨ trailing = [','] ∧ words ≠ []) ∧
      row = [','].intercalate words ++ trailing := by
  constructor
  · intro written
    induction written with
    | none => exact ⟨[], .inl rfl, rfl⟩
    | last word => exact ⟨[], .inl rfl, by simp [List.intercalate]⟩
    | @more word words row written ih =>
      obtain ⟨trailing, allowed, rfl⟩ := ih
      cases words with
      | nil =>
        have none : trailing = [] := by simpa using allowed
        subst none
        exact ⟨[','], .inr ⟨rfl, by simp⟩, by simp [List.intercalate]⟩
      | cons next words =>
        refine ⟨trailing, by simpa using allowed, ?_⟩
        simp [List.intercalate]
  · rintro ⟨trailing, allowed, rfl⟩
    induction words with
    | nil =>
      have none : trailing = [] := by simpa using allowed
      subst none
      exact .none
    | cons word words ih =>
      cases words with
      | nil =>
        rcases allowed with rfl | ⟨rfl, _⟩
        · simpa [List.intercalate] using Row.last word
        · simpa [List.intercalate] using Row.more word .none
      | cons next words =>
        have row := Row.more word (ih (by simpa using allowed))
        simpa [List.intercalate] using row

end Descent.Brackets
