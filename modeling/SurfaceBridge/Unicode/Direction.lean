import SurfaceBridge.Unicode.RangeTable

set_option autoImplicit false

/-! # Writing direction

The direction of a character decides which labels of a domain name may hold it. Only characters
that are valid in domain names are listed.
-/

namespace SurfaceBridge

namespace Unicode

/-- How a character takes part in the direction of a text. -/
inductive Direction where
  | leftToRight
  | rightToLeft
  | arabicLetter
  | arabicNumber
  | europeanNumber
  | europeanSeparator
  | commonSeparator
  | europeanTerminator
  | otherNeutral
  | boundaryNeutral
  | nonspacingMark
  deriving DecidableEq, Repr

/-- The characters of each direction but left to right. -/
def directionTables : List (Direction × RangeTable) := [
  (.rightToLeft, RangeTable.ofLines ["14u 1 2 2 9-q 4-5 cr-16 9-1 4 3-n 4 9 3 7-e 1-o 5 1eht-5 2 1-17 1-1 3 2-m 1-1z 8-8 1c-i",
    "1-1 5-w 4-p 5-q 12-1j 4-j 2-1a f-3 1-2 1-s a-8 7-8 7-1r w-10 6-b 9-1h a-l 2-q 5-p 7-3",
    "c-6 28-20 3b-1e 7-5 1s-f p-s 8-1 6o-15 3 2-1 26-13 20-h 4-3 12-r k-m 16o9-5g 2-8 2a-x 7",
    "4-9 4-1"]),
  (.arabicLetter, RangeTable.ofLines ["16w 2 1 d 1-19 y-2 1-3 4-2k f-1 7-1 a-j 2 1-t t-2g b 4u-a 5-v 7 8-15 1bzc-w cd-1 1i-6",
    "4k 2vg-z bi-5 8-8 x-2 1f-l b-8 17o7-1v 24-1o"]),
  (.arabicNumber, RangeTable.ofLines ["19c-9 1-1 1fwj-9 86-u"]),
  (.europeanNumber, RangeTable.ofLines ["1c-9 1bq-9 1drb-q"]),
  (.europeanSeparator, RangeTable.ofLines ["17 1 6p0"]),
  (.commonSeparator, RangeTable.ofLines ["18 1-1 a 15d 56f"]),
  (.europeanTerminator, RangeTable.ofLines ["z-2 3g-3 a-1 yl 3d-1 2n p3-1 7 6t 7b g5 1wb 1n8-2 31-7 1-o 30 6c qhw-1 nmr-3 12ji"]),
  (.otherNeutral, RangeTable.ofLines ["x-1 3-4 g-5 q-5 q-3 y 4-1 1 1-1 1 7-1 3 3 n v ch-1 7-d 2-5 6-1 5-8 1-g 39 3k b7 2-1",
    "3b-1 6-1 5q a 7g-3 s9-5 1 3h-6 jf-3 uq-9 2u ii-1 9f-9 6-a 8l 3-1 48-x 174 1-4 1-b 3 d",
    "2-3 1 1-4 1-1 3-c 1-6 4l 3 b 2-1 5-1 3 1 1 1 g 6-3 5-3 1o-1 4-3l 2-n 2 2-6v 2-a 1x-p",
    "1-40 p-a 4g-cg 1-9e 74-7f 1-2u 3-2s 1-46 2-v 1-2w 6d-5 e-6 74-2l y-p 1-3 1-2a 7i 1-1",
    "3-o f 6 5-2 2o 2i 5g-z 5i4-1r h3k-1i 92-2 2r a-1 3k-x 2u 4f-3 20-3 ky-1 g5u-h 3j 19-2",
    "1x-1 je 1q-24 3-c 3 1ha ex-6 102-j 16i-c 1uw-7 4-g fsg jd2-1 l-1t 3 56-2e 5g9-1 7i-17",
    "4-2r c-e 2-e 1-e 1-10 l-4 v 1p-2 1p 4y-5 4a-rb 4-g 3-c 3-3a 4-2m 6-b 4 f-b 4-1j 8-9",
    "6-13 8-t 2-1 26-9f c-d 2-c 3-8 7-19 1-6 8-d 4-8 7-8 7-42 1-1i"]),
  (.boundaryNeutral, RangeTable.ofLines ["0-8 5-d 2r 68c-1"]),
  (.nonspacingMark, RangeTable.ofLines ["lc-1r 2 3-8 1-v 7n-6 7b-18 1 1-1 1-1 1 20-a 1c-k g 2t-6 2-5 2-1 1-3 z u-q 2j-a 1m-8 9",
    "o-3 1-8 1-2 1-4 17-2 1o-7 16-n 1-v 1j 1 4-7 4 3-6 a-1 t 1m 4-3 8 k-1 q 2-1 1l 4-1 4-1",
    "2-2 3 u-1 3 b-1 1l 4-4 1-1 4 k-1 m-5 1 1m 2 1-3 8 7-1 b-1 u 1p c 1e 3 1j 1-2 5-2 1-3",
    "7-1 b-1 t 1m f-1 k-1 s-1 1l-1 4-3 8 k-1 t 20 7-2 1 2i 2-6 c-7 2q 2-8 b-6 21-1 r 1 1",
    "1j-1 1 5-4 1 1-2 1-1 5-5 1-3 1-3 1-3 1-3 1-3 1-b 1-2 9 2u-3 1-5 1-1 2-1 p-1 4-2 g-3 d",
    "2-1 6 f jj-2 qa-2 t-1 u-1 u-1 1v-6 8 2-a 9 4n-1 y 3a-2 4-1 9 6-2 63-1 2 1m 1-6 1 1 2-7",
    "6-9 2 1c-u 1d-3 1c 1-4 1 5 14-8 c-1 w-3 2-1 1-2 1k 1-1 3 1-2 1m-7 2-1 48-2 1-c 1-6 4 6",
    "3-1 5i-1r k0-w 2da-2 3x 2o-v fe-3 2z-1 n9w-3 1-9 w-1 28-1 7k 3 4 p-1 5 47-1 q-h d 12-7",
    "p-a 1a-2 1c 2-3 2-1 13 1v-5 2-1 2-1 c 8 1b 1f 1-2 2-1 5-1 1 16-1 8 6m 2 4 fn4 ld-f r1",
    "6a 45-4 1ae-2 1-1 5-3 14-2 4 4l-1 fx-3 ar-1 28-2 1y-a 1d-3 3f 1i-e 15 2-1 a-2 1d-3 2-1",
    "7 1p-2 10-4 1-7 1q c-1 1g-8 a-3 2 2n-2 2 1-1 6 2 4d 3-7 l-1 1l-1 3 11-6 3-4 5f-7 2-2 1",
    "n 2c-5 1 4-1 1-1 6m-3 6-1 1-1 r-1 2d-7 2 1-1 2y 1 2-5 1 2t-2 2-3 1-4 77-8 1-1 74-1 1 4",
    "40-3 2-1 4 w-5 2-1 14-5 2-3 8 9-5 2-2 1a-c 1-1 ba-6 1-5 2c-l 2-6 1-1 1-1 3e-5 3 1-1 1-6",
    "1 20-1 3 1 9n-1 b-1 1g-4 5 1 459 6-e asa-4 1n-6 t4 1r-3 29 f5k-1 3mp-19 2-m f4-2 h-7",
    "2-6 u-3 44-2 1iz-1i 4-1d 8 e m-4 1-e 11s-6 1-g 2-6 1-1 1-4 2s 4g-6 af 1p-3 e4-3 rk-6",
    "31-6"])]

/-- The direction of a character. -/
def direction (c : Nat) : Direction :=
  match directionTables.find? fun t => t.2.contains c with
  | none => .leftToRight
  | some (value, _) => value

end Unicode

end SurfaceBridge
