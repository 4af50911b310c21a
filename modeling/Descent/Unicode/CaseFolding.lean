import Descent.Unicode.Folding

set_option autoImplicit false

/-!
Sets of characters that do not tell upper from lower case.
-/

namespace Descent.Unicode

/-- All characters that are the same as the given one but for case, itself among them. -/
def caseVariants (code : Nat) : List Nat :=
  (foldingClasses.find? fun members => members.contains code).getD [code]

namespace CodeSet

/-- The set with all case variants of its members. -/
def closeUnderCase (set : CodeSet) : CodeSet :=
  let variants := (foldingClasses.filter fun members => members.any set.contains).flatten
  ofRanges (set.ranges.toList ++ variants.map fun code => (code, code))

/-- The set with the other case of every letter of ASCII among its members. -/
def closeUnderAsciiCase (set : CodeSet) : CodeSet :=
  let lower := set.inter ⟨#[(0x61, 0x7A)]⟩
  let upper := set.inter ⟨#[(0x41, 0x5A)]⟩
  ofRanges (set.ranges.toList ++
    lower.ranges.toList.map (fun (low, high) => (low - 0x20, high - 0x20)) ++
    upper.ranges.toList.map (fun (low, high) => (low + 0x20, high + 0x20)))

end CodeSet

end Descent.Unicode
