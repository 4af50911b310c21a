import Descent.Unicode.Category
import Descent.Unicode.Marks

set_option autoImplicit false

/-!
Text between double quotes, as messages show it.

A quote, a backslash and the usual control characters are written with a backslash and one more
character. Every other character that shows nothing of its own, or that would attach to the
character before it, is written as `\u` with its code point in braces. All else stands for itself.
-/

namespace Descent.Text

/-- The categories whose characters show nothing of their own. -/
def isInvisibleCategory (category : String) : Bool :=
  ["Cc", "Cf", "Cs", "Co", "Cn", "Zl", "Zp", "Zs"].contains category

/-- Whether a character stands for itself between quotes, the ones with an escape of their own
apart. For ASCII these are the blank and the visible characters. -/
def isPlain (char : Char) : Bool :=
  if char.toNat < 0x80 then decide (0x20 ≤ char.toNat) && decide (char.toNat < 0x7F)
  else !Unicode.graphemeExtend.contains char.toNat &&
    !isInvisibleCategory (Unicode.generalCategory.valueAt char.toNat)

/-- A code point in hexadecimal between braces, after `\u`. -/
def codePointEscape (char : Char) : List Char :=
  ['\\', 'u', '{'] ++ Nat.toDigits 16 char.toNat ++ ['}']

/-- The written form of one character between quotes. -/
def quotedChar (char : Char) : List Char :=
  if char = '"' then ['\\', '"']
  else if char = '\\' then ['\\', '\\']
  else if char = '\t' then ['\\', 't']
  else if char = '\r' then ['\\', 'r']
  else if char = '\n' then ['\\', 'n']
  else if char = '\x00' then ['\\', '0']
  else if isPlain char then [char]
  else codePointEscape char

/-- A text between double quotes. -/
def quoted (text : String) : String :=
  String.ofList ('"' :: text.toList.flatMap quotedChar ++ ['"'])

end Descent.Text
