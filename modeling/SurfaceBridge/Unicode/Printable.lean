import SurfaceBridge.Unicode.Category

set_option autoImplicit false

/-! # Characters that can be shown as they are

A character cannot be shown when it is a control, a format character, a surrogate, unassigned,
for private use, or a separator other than the space. A character that extends the grapheme
before it can be shown, but not alone.
-/

namespace SurfaceBridge

namespace Unicode

/-- Whether a code point has a shape of its own. -/
def isPrintable (n : Nat) : Bool :=
  n = 0x20 || !inCategory ["Cc", "Cf", "Cs", "Co", "Cn", "Zs", "Zl", "Zp"] n

/-- The code points that extend the grapheme before them. -/
def graphemeExtend : RangeTable := RangeTable.ofLines
  ["lc-33 7n-6 7b-18 1 1-1 1-1 1 20-a 1c-k g 2t-6 2-5 2-1 1-3 z u-q 2j-a 1m-8 9 o-3 1-8 1-2",
   "1-4 17-2 1n-8 16-n 1-v 1j 1 4-7 4 3-6 a-1 t 1m 1 2-3 8 9 a-1 q 2-1 1l 4-1 4-1 2-2 3 u-1",
   "3 b-1 1l 4-4 1-1 4 k-1 m-5 1 1m 1-1 1-3 8 7-2 a-1 u 1n 1 c 9 14 3 1j 1-2 5-2 1-3 7-1 b-1",
   "t 1m 2-1 1 3-2 1-3 7-1 b-1 s-1 1l-1 1 2-3 8 9 a-1 t 20 4 2-2 1 8 29 2-6 c-7 2q 2-8 b-6",
   "21-1 r 1 1 1j-d 1-4 1-1 5-a 1-z 9 2u-3 1-5 1-1 2-1 p-1 4-2 g-3 d 2-1 6 f jj-2 qa-3 s-2",
   "t-1 u-1 1s-1 1-6 8 2-a 9 19-2 1 39-1 y 3a-2 4-1 9 6-2 63-1 2 1m 1-6 1 1 2-7 6-9 2 1c-19",
   "2-b k-3 1c-9 4-2 12-8 c-1 w-3 2-5 1k 1-1 3 1-4 1k-7 2-1 48-2 1-c 1-6 4 6 3-1 5i-1r ek",
   "5f-w 2da-2 3x 2o-v fe-5 2x-1 n9w-3 1-9 w-1 28-1 7k 3 4 p-1 5 47-1 q-h d 12-7 p-a 1 18-2",
   "1c 2-3 2-1 2 10 1v-5 2-1 2-1 c 8 1b 1f 1-2 2-1 5-1 1 16-1 8 6m 2 4 fn4 kh-f g-f a6-1 gt",
   "6a 45-4 1ae-2 1-1 5-3 14-2 4 4l-1 fx-3 1t-4 8t-1 25-5 1y-a 1d-3 3f 1i-e 15 2-1 a-2 1d-3",
   "2-1 7 1p-2 10-4 1-7 1q c-1 1g-8 1 8-3 2 2n-2 2-3 6 2 4d 3-7 l-1 1l-1 1 1 c 9 e-6 3-4 1v",
   "2-5 1 2 1-2 4-2 1 e-1 2d-7 2-2 1 n 29 2-5 1 2 1-1 1-1 6j 2-3 6-1 1-1 r-1 2d-7 2 1-1 2y 1",
   "2-7 2t 1 2-3 1-4 77-8 1-1 6t a-3 4 40-3 2-1 4 w-9 14-5 2-3 8 9-5 2-2 1a-c 1-1 5i 1-2 1",
   "5l-6 1-5 1 2a-l 2-6 1-1 1-1 3e-5 3 1-1 1-6 1 20-1 3 1 9n-1 b-1 1g-4 5-2 n 44l 6-e 8ug-b",
   "3-2 1xc-4 1n-6 t4 1r-3 29 b-1 f57-1 3mp-19 2-m f2-4 3-5 8-7 2-6 u-3 44-2 1iz-1i 4-1d 8 e",
   "m-4 1-e 11s-6 1-g 2-6 1-1 1-4 2s 4g-6 af 1p-3 e4-3 72-1 6r 2 7-1 5 d6-6 31-6 gzbp-2n",
   "3k-6n"]

end Unicode

end SurfaceBridge
