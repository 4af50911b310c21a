import Descent.Unicode.Age
import Descent.Unicode.Category
import Descent.Unicode.GraphemeBreak
import Descent.Unicode.PropertyName
import Descent.Unicode.Script
import Descent.Unicode.TextBreak

set_option autoImplicit false

/-!
Finding a set of characters by the name of a property and, where it has values, of a value.

Names are compared loosely: case, blanks, hyphens and low lines do not count, nor does a leading
`is`.
-/

namespace Descent.Unicode

/-- The form of a name that tables have. Characters beyond ASCII are left out of it. The name `isc`
is kept whole, for it is not the name `c` with `is` before it. -/
def looseName (name : String) : String :=
  let kept (chars : List Char) : List Char :=
    (chars.filter fun char => char.toNat < 0x80 && !" _-".contains char).map Char.toLower
  match name.toList with
  | first :: second :: rest =>
    if first.toLower = 'i' ∧ second.toLower = 's' then
      let remaining := kept rest
      if remaining = ['c'] then "isc" else String.ofList remaining
    else String.ofList (kept (first :: second :: rest))
  | chars => String.ofList (kept chars)

/-- The value that a loose name stands for. -/
def valueNamed? (values : List NamedValue) (name : String) : Option String :=
  (values.find? fun value => value.names.contains name).map NamedValue.value

/-- The characters of a general category or of a group of categories, by loose name. -/
def categorySet? (name : String) : Option CodeSet :=
  if name = "any" then some .full
  else if name = "ascii" then some .ascii
  else if name = "assigned" then
    some (generalCategory.codesWhere (· = "Cn")).complement
  else
    (valueNamed? categoryNames name).map fun value =>
      let members := partsOf '+' value
      (generalCategory.codesWhere members.contains).inter .full

/-- The characters of a script, by loose name. -/
def scriptSet? (name : String) : Option CodeSet :=
  (valueNamed? scriptNames name).map fun value => (script.codesWhere (· = value)).inter .full

/-- The characters used in a script, by loose name: those that have it among several scripts, and
those of the script that are not given a set of their own. -/
def scriptUseSet? (name : String) : Option CodeSet :=
  (valueNamed? scriptNames name).map fun value =>
    let shared := sharedScripts.codesWhere fun scripts => (partsOf '+' scripts).contains value
    let alone := sharedScripts.codesWhere (· = "-")
    shared.union ((script.codesWhere (· = value)).inter alone)

/-- The code points assigned up to a version, by loose name. -/
def ageSet? (name : String) : Option CodeSet :=
  (valueNamed? ageNames name).map fun value =>
    let later := (ageNames.map NamedValue.value).dropWhile (· ≠ value)
    let versions := (ageNames.map NamedValue.value).filter fun version =>
      version = value || !later.contains version
    (age.codesWhere versions.contains).inter .full

/-- The characters with one value of a break property, by loose name. -/
def breakSet? (names : List NamedValue) (partition : Partition) (name : String) : Option CodeSet :=
  (valueNamed? names name).map fun value => (partition.codesWhere (· = value)).inter .full

/-- The characters with a property that has no values, by loose name. -/
def binarySet? (name : String) : Option CodeSet :=
  (binaryProperties.find? fun property => property.1.contains name).map Prod.snd

/-- The characters that one name alone stands for: a property without values, else a general
category, else a script. -/
def namedSet? (name : String) : Option CodeSet :=
  let name := looseName name
  binarySet? name <|> categorySet? name <|> scriptSet? name

/-- The characters that have a value of a property. -/
def valuedSet? (property value : String) : Option CodeSet :=
  let value := looseName value
  match looseName property with
  | "gc" | "generalcategory" => categorySet? value
  | "sc" | "script" => scriptSet? value
  | "scx" | "scriptextensions" => scriptUseSet? value
  | "age" => ageSet? value
  | "gcb" | "graphemeclusterbreak" => breakSet? graphemeBreakNames graphemeBreak value
  | "wb" | "wordbreak" => breakSet? wordBreakNames wordBreak value
  | "sb" | "sentencebreak" => breakSet? sentenceBreakNames sentenceBreak value
  | _ => none

/-- The characters that make up words. -/
def wordCharacters : CodeSet :=
  ((alphabetic.union joinControl).union
    (generalCategory.codesWhere ["Mn", "Mc", "Me", "Nd", "Pc"].contains)).inter .full

/-- The decimal digits. -/
def decimalDigits : CodeSet := generalCategory.codesWhere (· = "Nd")

end Descent.Unicode
