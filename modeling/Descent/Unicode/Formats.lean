import Descent.Unicode.CodeSet

set_option autoImplicit false

/-!
Properties of blanks, invisible characters and code points that are not characters.
-/

namespace Descent.Unicode

/-- The code points with the property `White_Space`. -/
def whiteSpace : CodeSet := .ofRuns
  ["9 5 i 1 2s 1 q 1 4bj 1 1vj b t 2 5 1 1b 1 334 1"]

/-- The code points with the property `Pattern_White_Space`. -/
def patternWhiteSpace : CodeSet := .ofRuns
  ["9 5 i 1 2s 1 688 2 o 2"]

/-- The code points with the property `Bidi_Control`. -/
def bidiControl : CodeSet := .ofRuns
  ["17g 1 54h 2 q 5 1j 4"]

/-- The code points with the property `Bidi_Mirrored`. -/
def bidiMirrored : CodeSet := .ofRuns
  ["14 2 i 1 1 1 s 1 1 1 t 1 1 1 19 1 f 1 2v2 4 1gd 2 1wc 2 a 2 1i 2 e 2 4x 1 5c 4 3 6 3 1 3 2 3",
   "4 1 4 1 1 1 1 4 9 5 1 1 i 5 4 9 2 1 1 1 8 1 w 2 4 5 1 9 2 2 j 5 2 9 5 2 2 4 o 2 g 8 4 k 2 7",
   "2 u5 e 22 1 2 4 1 2 1 3 5 4 5 3 3 e b7 m 2 6 1 e 8 1 7 6 3 1 4 5 1 2 2 5 4 1 1 3 2 2 a 6 2 2",
   "c j 1 4 2 1 1 1 2 1 1 4 5 2 6 3 o 2 b 2 4 4 1 2 2 2 4 17 2 8 1 14 5 1 1 1 3 5 5 3 4 1 3 5 1",
   "1 74 1 eb 4 3 2 1 2 e 2 2 a 17 8 bv a 2 8 14ql 6 5 2 4i 2 i 1 1 1 s 1 1 1 t 1 1 1 1 2 1 2",
   "16k7 1 1l 1 1l 1 1l 1 1l 1"]

/-- The code points with the property `Join_Control`. -/
def joinControl : CodeSet := .ofRuns
  ["6bw 2"]

/-- The code points with the property `Default_Ignorable_Code_Point`. -/
def defaultIgnorableCodePoint : CodeSet := .ofRuns
  ["4t 1 ip 1 jw 1 282 2 18z 2 2d 5 1kr 5 q 5 1d g 3ck 1 14ez g 6n 1 4g 1 27 9 119j 4 43z 8 h405",
   "35s"]

/-- The code points with the property `Other_Default_Ignorable_Code_Point`. -/
def otherDefaultIgnorableCodePoint : CodeSet := .ofRuns
  ["nj 1 2rz 2 18z 2 1pr 1 3cu 1 14qj 1 27 9 i9dz 1 1 u 2o 3k 6o 2s0"]

/-- The code points with the property `Deprecated`. -/
def deprecated : CodeSet := .ofRuns
  ["95 1 10p 1 1s3 1 1 1 1m1 2 1qd 6 jd 2 jh06 1"]

/-- The code points with the property `Variation_Selector`. -/
def variationSelector : CodeSet := .ofRuns
  ["4qz 3 1 1 19f4 g i9yo 6o"]

/-- The code points with the property `Noncharacter_Code_Point`. -/
def noncharacterCodePoint : CodeSet := .ofRuns
  ["1e4w w em 2 1eke 2 1eke 2 1eke 2 1eke 2 1eke 2 1eke 2 1eke 2 1eke 2 1eke 2 1eke 2 1eke 2",
   "1eke 2 1eke 2 1eke 2 1eke 2 1eke 2"]

end Descent.Unicode
