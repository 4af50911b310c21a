import Descent.Unicode.CodeSet

set_option autoImplicit false

/-!
Properties of combining marks and of the parts of a cluster.
-/

namespace Descent.Unicode

/-- The code points with the property `Grapheme_Base`. -/
def graphemeBase : CodeSet := .ofRuns
  ["w 2n x d 1 gi 34 8 2 6 4 7 1 1 1 k 1 68 7 4m 1 12 2 1e 2 3 1a 1 1 1 2 1 2 1 9 r 4 6 h a b 1",
   "1 1a l g 1 2t 8 1 6 2 2 1 4 w 2 1 1 u t 2h b 1 e 17 9 7 3 o 4 1 9 1 3 1 7 f 1 p 5 1 1 b 5 w",
   "g 16 1l 1j 1 1 1 4 8 4 1 3 7 a 2 t 1 2 1 8 2 2 2 m 1 7 1 1 3 4 3 1 1 2 6 2 2 2 1 1 d 2 1 3 4",
   "o 5 1 1 6 4 2 2 m 1 7 1 2 1 2 1 2 4 3 o 4 1 1 7 a 2 3 1 1 c 1 1 9 1 3 1 m 1 7 1 2 1 5 3 4 8",
   "1 1 2 3 1 f 2 4 c 7 1 8 2 1 8 2 2 2 m 1 7 1 2 1 5 3 1 2 1 6 2 2 2 f 2 1 3 4 i b 1 1 6 3 3 1",
   "4 3 2 1 1 1 2 3 2 3 3 3 c 5 1 1 2 3 3 1 3 3 1 l l 6 3 1 8 1 3 1 n 1 g 3 1 3 4 j 3 1 2 2 2 4",
   "a 7 a 1 b 1 3 1 n 1 a 1 5 3 2 2 1 1 2 n 3 1 2 4 a 1 3 e b 1 3 1 15 2 1 1 2 5 3 1 3 1 2 4 3 1",
   "a 4 q 2 2 1 i 3 o 1 9 1 1 2 7 9 2 6 7 7 a 2 3 c 1c 1 2 b 8 8 d 11 2 1 1 1 5 1 o 1 1 1 a 1 2",
   "9 1 2 5 1 1 9 a 2 4 w o 2 r 1 1 1 1 1 e 1 10 i 1 5 1 2 5 1d 8 1 6 1 d 11 19 4 1 6 1 2 2 2 p",
   "2 4 3 g 4 d 1 2 2 6 1 f 1 14 1 1 5 1 2 ah 1 4 2 7 1 1 1 4 2 15 1 4 2 x 1 4 2 7 1 1 1 4 2 f 1",
   "1l 1 4 2 1v 5 t 3 q 6 2e 2 6 2 il 3 2h 7 i d j 3 2 9 i e d 1 3 f 1g 2 1 7 8 1 2 b 9 3 a 6 a",
   "6 b 5 a 6 2h 7 5 2 y 1 1 5 1y a v 4 4 2 3 4 2 1 6 7 1 3 16 2 5 b 18 4 q 6 b 3 1l 2 2 3 1k 1",
   "1 9 1 1 2 8 6 d a 6 a 6 e 2e 1c a 4 3 8 1 t 9 c 2 w 4 2 6 1k 1 1 2 3 1 1 d 1c 8 2 5 f 3 1q 5",
   "17 2 b b 1 d 1 7 4 1 6 1 3 2 1 5 5c 1s 7q 2 6 2 12 2 6 2 8 1 1 1 1 1 1 1 v 2 1h 1 f 1 e 2 6",
   "1 j 2 3 1 9 1 b 5 o 7 1d g 2 2 r 1 d 3 y 1q 3w 4 ii m b l 1ec 2 ah 3 2 5 19 1 1 5 1 2 1k 7 2",
   "f n 9 7 1 7 1 7 1 7 1 7 1 7 1 7 1 7 x 2m y q 1 2h c 5y q 1m 6 g 1 2e 4 2t 5 17 1 2m 1 2e 9",
   "1c 1 mlp 3 1j 9 9o k 1b 4 1 a w 2 28 2 6 8 65 k h 1 3 1 4 1 p 2 5 4 a 6 1k 8 1w a c o d 1 12",
   "8 p b 1 c u 6 1c 1 2 4 2 2 2 1 d 1 b 4 7 1 p 1 15 6 2 2 2 b 3 1 8 1 1 2 a 2 w 1 1f 1 1 3 2 2",
   "5 2 1 1 1 o h 2 8 b 6 2 6 2 6 9 7 1 7 1 1o 4 39 1 2 1 4 3 a 6 8mc c n 4 1d 6is a6 2 2y 12 7",
   "c 5 5 1 1 o 1 5 1 1 1 2 1 2 1 i2 w g g a m z 1 j 1 4 4 5 1 3r 4 4d 2 v 3 6 2 6 2 6 2 3 3 7 1",
   "7 d 2 2 c 1 q 1 j 1 2 1 f 2 e y 3f 5 3 4 19 3 2g 1 d 3 1 1b 19 3n t 3 1d g r 4 10 9 u 5 12 a",
   "u 1 11 4 e 16 4e 2 a 6 10 4 10 4 14 8 1g b c 1 f 1 7 1 2 1 b 1 f 1 7 1 2 3 1g c 8n 9 m a 8 o",
   "6 1 16 1 9 1x 6 2 1 1 18 1 2 3 1 2 n 1 20 8 9 1c j 1 2 5 x 3 r 5 r 12 1k 4 k 2 1b f 4 1 3 1",
   "t a 9 7 9 7 1s w 11 6 c 9 1i 3 t 2 r 5 q 7 4 c 7 28 21 1j 1f d 1f 7 16 c a 6 12 8 o 8 2 5s v",
   "1 16 3 1 2 2 g 6 8 9 13 14 8 m b 9 m i 4 4 12 s k n 9 1 1 1i f 7 4 u 1 2 2 1 c 1d 4 2 2 2 1",
   "4 e p 7 a 9 10 5 1 9 i 8 z 1 3 b 1g 9 1 1 8 4 2 1 g 1 k b i 1 s 3 2 4 6 1 2 1r 7 1 1 1 4 1 f",
   "1 b 6 1b 1 3 d a 8 2 1 8 2 2 2 m 1 7 1 2 1 5 3 1 1 1 1 4 2 2 2 2 3 1 c 7 s a 1 1 2 1 1 12 1",
   "1 1 2 f 1 1 2 3 1 1 3 1 2 13 1k 8 2 3 1 1 l 1 1 1 3 u 1c 1 2 6 1 1 2 1 1 2 1 2 4 8 a 4m 1b 1",
   "2 6 4 2 1 2 r 10 1f 8 2 1 1 2 4 b a 6 d j 17 1 1 1 2 8 2 6 a 6 k s r 3 1 1 2 4 1 9 n 55 1b 9",
   "1 2 1 2s 2b c 8 2 1 2 8 1 2 1 o 1 5 1 2 6 4 1 3 9 a 1y 8 2 16 8 4 1 4 r 1 a 14 6 2 4 8 9 1 6",
   "2 3 1a d 1 2 9 d 21 7 a 2f 1 3 1 1 1 2g y e a 6 9 1 12 e 1 1 6 a t 3 w p 1 7 1 2 1 23 7 1 2",
   "1 12 l 1 9 a 6 6 1 2 1 11 4 2 1 1 1 1 7 a 6 18 4 a 6u j 2 4 9 f 1 10 8 2 3 n 2e 1 f 1e d pn",
   "2u 33 1 5 b 5g 218 2r d ts h 6 p 32z 5 g7 5a1 u c 3 3 a 1c6 ft 7 v 1 a 4 29 1 a 6 u 7 1 a 1c",
   "7 f a a 1 7 1 l 5 j c0 1m 5i 2j 5 p 2 p 18 23 5 1k b d 1s 4 e 5 9 5p2 15 w 2p 37 6pp 4 1 7 1",
   "2 1 83 f 1 t 3 2 1 e 4 8 b0 1s4 2z 5 d 3 9 7 a 2 1 2 1 31c 71 3 c4 6 n f h 2n 38 1o 6u a 13",
   "2 1o 5 3 m 2 7 u 4 1p l 1u 3 1 3e k c k c 2f 9 p 3r 2d 1 1z 1 2 2 1 2 2 2 4 1 c 1 1 1 7 1 1t",
   "1 4 2 8 1 7 1 s 1 4 1 5 1 1 3 7 1 9g 2 84 2 fm 1j 4 1e 8 1 e 1 7 vo v 6 6 79 1q 42 19 a 7 2",
   "a 4 2 8w u i 18 4 a 5 1 cw s 4 a 5y u 2 b 4 1 5c v 1 3 1 2 1 7 2 5 9 2 68 7 1 4 1 2 1 f 1 5h",
   "2 9 1c 1w 7 1 4 a 4 2 lt 1w 24 1p 5e 4 1 r 1 2 1 1 2 1 1 a 1 4 1 1 1 1 6 1 4 1 1 1 1 1 1 3 1",
   "2 1 1 2 1 1 1 1 1 1 1 1 1 1 2 1 1 2 4 1 7 1 4 1 4 1 1 1 a 1 h 5 3 1 5 1 h 1g 2 7i 18 4 2s c",
   "f 2 f 1 f 1 11 a 4u 1k t d 18 4 9 7 2 e 6 4a rd 3 h 3 d 3 62 6 c 4 1 f c 4 1k 8 a 6 14 8 u 2",
   "c 4 2 e 9 13 9k 8 e 2 d 3 b 3 1l 1 1 4 g 2 c 4 a 7 43 1 2v sl wyo w 3dq 2 4ge 2 5rl f ha 1wi",
   "f2 15u 3t7 5 6ju"]

/-- The code points with the property `Grapheme_Extend`. -/
def graphemeExtend : CodeSet := .ofRuns
  ["lc 34 7n 7 7b 19 1 1 1 2 1 2 1 1 20 b 1c l g 1 2t 7 2 6 2 2 1 4 z 1 u r 2j b 1m 9 9 1 o 4 1",
   "9 1 3 1 5 17 3 1n 9 16 o 1 w 1j 1 1 1 4 8 4 1 3 7 a 2 t 1 1m 1 1 1 2 4 8 1 9 1 a 2 q 1 2 2",
   "1l 1 4 2 4 2 2 3 3 1 u 2 3 1 b 2 1l 1 4 5 1 2 4 1 k 2 m 6 1 1 1m 1 1 2 1 4 8 1 7 3 a 2 u 1",
   "1n 1 1 1 c 1 9 1 14 1 3 1 1j 1 1 3 5 3 1 4 7 2 b 2 t 1 1m 1 2 2 1 1 3 3 1 4 7 2 b 2 s 2 1l 2",
   "1 1 2 4 8 1 9 1 a 2 t 1 20 1 4 1 2 3 1 1 8 1 29 1 2 7 c 8 2q 1 2 9 b 7 21 2 r 1 1 1 1 1 1j e",
   "1 5 1 2 5 b 1 10 9 1 2u 4 1 6 1 2 2 2 p 2 4 3 g 4 d 1 2 2 6 1 f 1 jj 3 qa 4 s 3 t 2 u 2 1s 2",
   "1 7 8 1 2 b 9 1 19 3 1 1 39 2 y 1 3a 3 4 2 9 1 6 3 63 2 2 1 1m 1 1 7 1 1 1 1 2 8 6 a 2 1 1c",
   "1a 2 c k 4 1c a 4 3 12 9 c 2 w 4 2 6 1k 1 1 2 3 1 1 5 1k 8 2 2 48 3 1 d 1 7 4 1 6 1 3 2 5i",
   "1s ek 1 5f x 2da 3 3x 1 2o w fe 6 2x 2 n9w 4 1 a w 2 28 2 7k 1 3 1 4 1 p 2 5 1 47 2 q i d 1",
   "12 8 p b 1 1 18 3 1c 1 2 4 2 2 2 1 10 1 1v 6 2 2 2 2 c 1 8 1 1b 1 1f 1 1 3 2 2 5 2 1 1 16 2",
   "8 1 6m 1 2 1 4 1 fn4 1 kh g g g a6 2 gt 1 6a 1 45 5 1ae 3 1 2 5 4 14 3 4 1 4l 2 fx 4 1t 5 8t",
   "2 25 6 1y b 1d 4 3f 1 1i f 15 1 2 2 a 3 1d 4 2 2 7 1 1p 3 10 5 1 8 1q 1 c 2 1g 9 1 1 8 4 2 1",
   "2n 3 2 4 6 1 2 1 4d 1 3 8 l 2 1l 2 1 1 1 1 c 1 9 1 e 7 3 5 1v 1 2 6 1 1 2 1 1 3 4 3 1 1 e 2",
   "2d 8 2 3 1 1 n 1 29 1 2 6 1 1 2 1 1 2 1 2 6j 1 2 4 6 2 1 2 r 2 2d 8 2 1 1 2 2y 1 1 1 2 8 2t",
   "1 1 1 2 4 1 5 77 9 1 2 6t 1 a 4 4 1 40 4 2 2 4 1 w a 14 6 2 4 8 1 9 6 2 3 1a d 1 2 5i 1 1 3",
   "1 1 5l 7 1 6 1 1 2a m 2 7 1 2 1 2 3e 6 3 1 1 2 1 7 1 1 20 2 3 1 1 1 9n 2 b 2 1g 5 5 3 n 1",
   "44l 1 6 f 8ug c 3 3 1xc 5 1n 7 t4 1 1r 4 29 1 b 2 f57 2 3mp 1a 2 n f2 5 3 6 8 8 2 7 u 4 44 3",
   "1iz 1j 4 1e 8 1 e 1 m 5 1 f 11s 7 1 h 2 7 1 2 1 5 2s 1 4g 7 af 1 1p 4 e4 4 72 2 6r 1 2 1 7 2",
   "5 1 d6 7 31 7 gzbp 2o 3k 6o"]

/-- The code points with the property `Grapheme_Link`. -/
def graphemeLink : CodeSet := .ofRuns
  ["1u5 1 3j 1 3j 1 3j 1 3j 1 3j 1 3j 1 3j 1 31 2 g 1 3g 1 33 1 3j 1 5l 1 50 2 1cp 2 u 1 4d 1 i5",
   "1 6b 1 2t 2 1y 2 3gr 1 o7a 1 11 1 47 1 3y 1 30 1 8l 1 6u 1 imp 1 16u 1 15 1 e 1 1l 1 3d 2 3v",
   "1 38 1 50 1 2q 1 3k 3 35 1 3j 1 70 1 3j 1 3a 1 38 1 7h 1 77 2 4h 1 2b 1 i 1 29 1 bp 1 78 2",
   "29 1 bt 2 d0s 1"]

/-- The code points with the property `Diacritic`. -/
def diacritic : CodeSet := .ofRuns
  ["2m 1 1 1 1z 1 6 1 4 1 2 2 dz 4f 1 8 5 6 h 2 4 1 9 2 71 5 5t 1 1j 19 1 1 1 2 1 2 1 1 3n 8 4 2",
   "3q 2 4 2 3 3 1v r 2j b 1m b y 2 3i 8 15 a g s 1p 1 g 1 3 4 s 1 22 1 g 1 32 1 g 1 32 1 g 1 1b",
   "3 1o 1 g 1 7 1 3b 1 32 1 g 1 32 1 g 1 31 2 g 1 3g 1 33 1 c 6 1 1 2z 1 d 5 23 2 r 1 1 1 1 1 4",
   "2 1u 3 1 2 1q 1 34 1 1 2 14 2 4 5 p 7 1 1 a 2 jl 3 qc 2 u 1 44 b 9 1 9n 3 84 1 k 8 2 1 1c f",
   "2 b 3 f 2 c 20 1 f 1 12 9 1i 2 1m 1 b 2 1u 2 1s 6 2a p 4 1 6 1 2 3 1e 1r 1c 10 5 c 11 b cd 1",
   "1 3 b 3 d 3 d 3 d 2 2k0 3 8t 1 e2 6 2x 4 2n 1 n76 1 c 2 1 1 s 2 2a 2 e y 2u 3 2u 1 6 2 c 1",
   "11 1 47 1 r i 1l 4 10 1 2n 1 c 1 10 1 45 3 1t 4 1f 1 2s 5 9 3 3k 2 fn4 1 ld g 7i 1 1 1 1b 1",
   "19 2 1v 1 l8 1 wv 6 1 16 1 9 hp 3 4 1 4l 2 fv 6 12 1 q 5 b0 1 2 3 1y b 1d 4 5c 1 15 1 20 2",
   "3c 2 1q 1 24 1 9 3 2w 2 4y 2 28 2 g 1 o 7 3 5 2h 3 1 2 d 2 2n 1 3 1 3f 2 6z 2 3i 1 3a 2 37 1",
   "7h 2 76 2 4 1 4c 1 2b 1 i 1 29 1 bp 1 76 1 1 2 29 1 1t 1 9z 2 n 1 44s f 8ux 1 1xc 5 1n 7 fo",
   "2 f6 h 28 2 cn2 4 1 7 1 2 64h 1a 2 n f4 3 3 6 8 8 2 7 u 4 2v6 1q 5e 7 af 1 1p 4 la 2 kg 7 31",
   "3 1 3"]

/-- The code points with the property `Extender`. -/
def extender : CodeSet := .ofRuns
  ["53 1 ew 2 oe 1 c9 1 hi 1 3t 1 2h 1 kw 1 3j 1 1tv 1 1k 1 gz 1 b2 1 1w 1 3ux 1 17 5 2v 2 2l 3",
   "lxy 1 16e 1 qq 1 m 1 3t 1 30 1 l 2 gor 1 1lc 2 157 1 r 1 4 1 xz 1 85 1 38 2 du 3 y7 1 n4 1",
   "fag 2 ws 2 1 1 e 2 mdk 2 xd 1 no 3"]

/-- The code points with the property `Modifier_Combining_Mark`. -/
def modifierCombiningMark : CodeSet := .ofRuns
  ["190 2 2 1 3n 1 6 1 3 2 dd 2 1 3 3 1 v 1"]

/-- The code points with the property `Prepended_Concatenation_Mark`. -/
def prependedConcatenationMark : CodeSet := .ofRuns
  ["16o 6 5z 1 1d 1 ao 2 28 1 1g4a 1 f 1"]

/-- The code points with the property `Logical_Order_Exception`. -/
def logicalOrderException : CodeSet := .ofRuns
  ["2tc 5 3f 5 25s 3 2 1 smy 2 2 1 1 2"]

/-- The code points with the property `Other_Grapheme_Extend`. -/
def otherGraphemeExtend : CodeSet := .ofRuns
  ["1xa 1 o 1 9y 1 o 1 2u 1 o 1 6g 1 1 1 4 2 1 2 9 2 2v 1 o 1 3b 1 f 1 1th 1 u 1 sg 1 5 1 1 1 5",
   "2 2t 1 1z 2 t4 1 36p 2 nxf 1 30 1 gyl 2 3kw 1 38 1 7c 1 e 1 9 1 2o 1 9 1 2 1 1 3 5 1 68 1 c",
   "1 6p 1 7a 1 hl 1 c 1 16r 1 fxq 2 j8z 2 6 6 h419 2o"]

end Descent.Unicode
