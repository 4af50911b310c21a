set_option autoImplicit false

/-!
Fitting a text or a number into a field of a given width.
-/

namespace Descent.Text

/-- Where a text stands in a field that is wider than it. -/
inductive Alignment where
  | left
  | right
  | center
  deriving DecidableEq, Repr

/-- How a field is to be filled. -/
structure Field where
  /-- The least number of characters. -/
  width : Nat
  /-- What fills the space beside the text. -/
  fill : Char
  /-- Where the text stands; without it a text stands left and a number right. -/
  alignment : Option Alignment
  /-- Whether a number is brought to its width by zeros after its sign. -/
  zeros : Bool
  /-- Whether a number that is not negative has a plus sign. -/
  plus : Bool
  /-- The greatest number of characters taken from a text; it says nothing about a number. -/
  precision : Option Nat
  deriving DecidableEq, Repr

/-- A text with fill characters beside it. A centred text has the odd one after it. -/
def Field.surround (field : Field) (alignment : Alignment) (text : List Char) : List Char :=
  let missing := field.width - text.length
  let before :=
    match alignment with
    | .left => 0
    | .right => missing
    | .center => missing / 2
  List.replicate before field.fill ++ text ++ List.replicate (missing - before) field.fill

/-- A text in a field, cut to its precision. -/
def Field.showText (field : Field) (text : String) : String :=
  let shown :=
    match field.precision with
    | some most => text.toList.take most
    | none => text.toList
  String.ofList (field.surround (field.alignment.getD .left) shown)

/-- A number in a field. -/
def Field.showInt (field : Field) (number : Int) : String :=
  let sign := if number < 0 then ['-'] else if field.plus then ['+'] else []
  let digits := Nat.toDigits 10 number.natAbs
  if field.zeros then
    let missing := field.width - (sign.length + digits.length)
    String.ofList (sign ++ List.replicate missing '0' ++ digits)
  else
    String.ofList (field.surround (field.alignment.getD .right) (sign ++ digits))

end Descent.Text
