set_option autoImplicit false

/-!
A place in a text, given as a number of bytes from its start in UTF-8.

Any number is a place, also one beyond the end or inside a character; then nothing remains there.
`Cursor` keeps what remains beside the place, so that moving over characters does not start again
from the beginning of the text.
-/

namespace Descent.Text

/-- The number of bytes of some characters in UTF-8. -/
def byteLength : List Char → Nat
  | [] => 0
  | char :: rest => char.utf8Size + byteLength rest

@[simp] theorem byteLength_nil : byteLength [] = 0 := rfl

@[simp] theorem byteLength_cons (char : Char) (rest : List Char) :
    byteLength (char :: rest) = char.utf8Size + byteLength rest := rfl

theorem byteLength_append (first second : List Char) :
    byteLength (first ++ second) = byteLength first + byteLength second := by
  induction first with
  | nil => simp
  | cons char rest ih => simp [ih, Nat.add_assoc]

/-- What follows the given number of bytes; nothing, if there are not so many bytes or if they end
inside a character. -/
def dropBytes : Nat → List Char → List Char
  | _, [] => []
  | count, char :: rest =>
    if count = 0 then char :: rest
    else if char.utf8Size ≤ count then dropBytes (count - char.utf8Size) rest
    else []

@[simp] theorem dropBytes_nil (count : Nat) : dropBytes count [] = [] := by
  simp [dropBytes]

@[simp] theorem dropBytes_zero (chars : List Char) : dropBytes 0 chars = chars := by
  cases chars <;> simp [dropBytes]

theorem dropBytes_byteLength_append (first second : List Char) :
    dropBytes (byteLength first) (first ++ second) = second := by
  induction first with
  | nil => simp
  | cons char rest ih =>
    have positive := char.utf8Size_pos
    simp only [byteLength_cons, List.cons_append, dropBytes]
    rw [if_neg (by omega), if_pos (by omega), Nat.add_sub_cancel_left, ih]

/-- If something remains after `count` bytes, then these bytes are whole characters. -/
theorem exists_append_of_dropBytes {count : Nat} {chars rest : List Char} {char : Char}
    (remains : dropBytes count chars = char :: rest) :
    ∃ before, chars = before ++ char :: rest ∧ byteLength before = count := by
  induction chars generalizing count with
  | nil => simp at remains
  | cons head tail ih =>
    simp only [dropBytes] at remains
    split at remains
    next zero => exact ⟨[], by simpa using remains, by simp [zero]⟩
    next =>
      split at remains
      next fits =>
        obtain ⟨before, same, length⟩ := ih remains
        exact ⟨head :: before, by simp [same], by simp [length]; omega⟩
      next => simp at remains

/-- Moving over characters that remain. -/
theorem dropBytes_add {count : Nat} {chars moved rest : List Char}
    (remains : dropBytes count chars = moved ++ rest) :
    dropBytes (count + byteLength moved) chars = rest := by
  cases moved with
  | nil => simpa using remains
  | cons char moved =>
    rw [List.cons_append] at remains
    obtain ⟨before, same, length⟩ := exists_append_of_dropBytes remains
    subst same
    rw [← length, ← byteLength_append]
    have regroup : before ++ char :: (moved ++ rest) = (before ++ char :: moved) ++ rest := by simp
    rw [regroup, dropBytes_byteLength_append]

/-- A place in a text together with what remains there. -/
structure Cursor where
  /-- The whole text. -/
  text : String
  /-- The number of bytes before the place. -/
  position : Nat
  /-- What remains. -/
  rest : List Char
  rest_eq : rest = dropBytes position text.toList

namespace Cursor

/-- The given place in a text. -/
def place (text : String) (position : Nat) : Cursor := ⟨text, position, _, rfl⟩

/-- The place after some of the characters that remain. -/
def advance (cursor : Cursor) (count : Nat) : Cursor where
  text := cursor.text
  position := cursor.position + byteLength (cursor.rest.take count)
  rest := cursor.rest.drop count
  rest_eq := (dropBytes_add
    (cursor.rest_eq.symm.trans (List.take_append_drop count cursor.rest).symm)).symm

/-- A cursor is its text and its position. -/
@[ext] theorem ext {first second : Cursor} (text : first.text = second.text)
    (position : first.position = second.position) : first = second := by
  obtain ⟨text₁, position₁, rest₁, eq₁⟩ := first
  obtain ⟨text₂, position₂, rest₂, eq₂⟩ := second
  cases text
  cases position
  cases eq₁
  cases eq₂
  rfl

instance : DecidableEq Cursor := fun first second =>
  if same : first.text = second.text ∧ first.position = second.position then
    .isTrue (ext same.1 same.2)
  else .isFalse fun equal => same (equal ▸ ⟨rfl, rfl⟩)

@[simp] theorem text_at (text : String) (position : Nat) : (place text position).text = text := rfl

@[simp] theorem position_at (text : String) (position : Nat) :
    (place text position).position = position := rfl

@[simp] theorem text_advance (cursor : Cursor) (count : Nat) :
    (cursor.advance count).text = cursor.text := rfl

@[simp] theorem position_advance (cursor : Cursor) (count : Nat) :
    (cursor.advance count).position = cursor.position + byteLength (cursor.rest.take count) := rfl

@[simp] theorem rest_advance (cursor : Cursor) (count : Nat) :
    (cursor.advance count).rest = cursor.rest.drop count := rfl

end Cursor

end Descent.Text
