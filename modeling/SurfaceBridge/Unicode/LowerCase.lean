import SurfaceBridge.Unicode.RangeTable

set_option autoImplicit false

/-! # The lower case of a character

The lower case of a character lies at a distance that many characters share, so the table lists,
for each distance, the characters that it moves.
-/

namespace SurfaceBridge

namespace Unicode

/-- The distances to lower case and the characters each of them moves. -/
def lowerTables : List (Int × RangeTable) := [
  (-42561, RangeTable.ofLines ["x5o"]),
  (-42343, RangeTable.ofLines ["x57"]),
  (-42319, RangeTable.ofLines ["x4b"]),
  (-42315, RangeTable.ofLines ["x4c"]),
  (-42308, RangeTable.ofLines ["x4a 3"]),
  (-42307, RangeTable.ofLines ["x51"]),
  (-42305, RangeTable.ofLines ["x4d"]),
  (-42282, RangeTable.ofLines ["x4h"]),
  (-42280, RangeTable.ofLines ["x3h"]),
  (-42261, RangeTable.ofLines ["x4i"]),
  (-42258, RangeTable.ofLines ["x4g"]),
  (-35384, RangeTable.ofLines ["x52"]),
  (-35332, RangeTable.ofLines ["x31"]),
  (-10815, RangeTable.ofLines ["8se-1"]),
  (-10783, RangeTable.ofLines ["8rz"]),
  (-10782, RangeTable.ofLines ["8s0"]),
  (-10780, RangeTable.ofLines ["8rx"]),
  (-10749, RangeTable.ofLines ["8ry"]),
  (-10743, RangeTable.ofLines ["8rm"]),
  (-10727, RangeTable.ofLines ["8ro"]),
  (-8383, RangeTable.ofLines ["6ju"]),
  (-8262, RangeTable.ofLines ["6jv"]),
  (-7615, RangeTable.ofLines ["61q"]),
  (-7517, RangeTable.ofLines ["6jq"]),
  (-3814, RangeTable.ofLines ["8rn"]),
  (-3008, RangeTable.ofLines ["5n4-16 2-2"]),
  (-195, RangeTable.ofLines ["g3"]),
  (-163, RangeTable.ofLines ["fx"]),
  (-130, RangeTable.ofLines ["f4 d8-2"]),
  (-128, RangeTable.ofLines ["6bc-1"]),
  (-126, RangeTable.ofLines ["6be-1"]),
  (-121, RangeTable.ofLines ["ag"]),
  (-112, RangeTable.ofLines ["6ay-1"]),
  (-100, RangeTable.ofLines ["6ai-1"]),
  (-97, RangeTable.ofLines ["dy"]),
  (-86, RangeTable.ofLines ["6a0-3"]),
  (-74, RangeTable.ofLines ["69m-1"]),
  (-60, RangeTable.ofLines ["s4"]),
  (-56, RangeTable.ofLines ["dz"]),
  (-48, RangeTable.ofLines ["x50"]),
  (-9, RangeTable.ofLines ["69o f 1b"]),
  (-8, RangeTable.ofLines ["64o-7 8-5 a-7 8-7 8-5 b 1 1 1 8-7 o-7 8-7 8-7 8-1 u-1 e-1"]),
  (-7, RangeTable.ofLines ["s9 5iq"]),
  (1, RangeTable.ofLines ["74 1 1 1 1 1 1 1 1 1 1 1 1 1 1 1 1 1 1 1 1 1 1 1 3 1 1 2 1 1 1 1 1 1 1 2 1 1 1 1 1 1 1",
    "1 1 1 1 1 1 1 1 1 1 1 1 1 1 1 2 1 1 4 1 2 3 5 6 7 1 1 2 4 2 3 1 2 3 8 2 2 1 1 1 1 1 1 1",
    "1 2 1 1 1 1 1 1 1 1 3 1 3 1 1 1 1 1 1 1 1 1 1 1 1 1 1 1 1 1 1 1 3 1 1 1 1 1 1 1 1 8 5 4",
    "1 1 1 1 81 1 3 2p 1 1 1 1 1 1 1 1 1 1 1 8 2 2t 1 1 1 1 1 1 1 1 1 1 1 1 1 1 1 1 9 1 1 1",
    "1 1 1 1 1 1 1 1 1 1 1 1 1 1 1 1 1 1 1 1 1 1 1 2 1 1 1 1 1 1 2 1 1 1 1 1 1 1 1 1 1 1 1 1",
    "1 1 1 1 1 1 1 1 1 1 1 1 1 1 1 1 1 1 1 1 1 1 1 1 1 1 1 1 1 1 1 1 1 1 4m2 ae 1 1 1 1 1 1",
    "1 1 1 1 1 1 1 1 1 1 1 1 1 1 1 1 1 1 1 1 1 1 1 1 1 1 1 1 1 1 1 1 1 1 1 1 1 1 1 1 1 1 1 1",
    "1 1 1 1 1 1 1 1 1 1 1 1 1 1 1 1 1 1 1 1 1 1 1 1 b 1 1 1 1 1 1 1 1 1 1 1 1 1 1 1 1 1 1 1",
    "1 1 1 1 1 1 1 1 1 1 1 1 1 1 1 1 1 1 1 1 1 1 1 1 1 1 1 1 hw 258 6 1 1 6 2 a 1 1 1 1 1 1",
    "1 1 1 1 1 1 1 1 1 1 1 1 1 1 1 1 1 1 1 1 1 1 1 1 1 1 1 1 1 1 1 1 1 1 1 1 1 1 1 1 1 1 1 8",
    "1 4 nyl 1 1 1 1 1 1 1 1 1 1 1 1 1 1 1 1 1 1 1 1 1 1 j 1 1 1 1 1 1 1 1 1 1 1 1 1 3r 1 1",
    "1 1 1 1 3 1 1 1 1 1 1 1 1 1 1 1 1 1 1 1 1 1 1 1 1 1 1 1 1 1 1 1 1 1 1 a 1 2 1 1 1 1 4 4",
    "1 3 1 1 1 1 1 1 1 1 1 b 1 1 1 1 1 1 1 4 1 2 1 1 1 1 1 1 1 q"]),
  (2, RangeTable.ofLines ["ck 2 2 12"]),
  (8, RangeTable.ofLines ["r3 36o-5"]),
  (15, RangeTable.ofLines ["xs"]),
  (16, RangeTable.ofLines ["6lc-f"]),
  (26, RangeTable.ofLines ["792-p"]),
  (27, RangeTable.ofLines ["20f4-o"]),
  (28, RangeTable.ofLines ["6k2"]),
  (32, RangeTable.ofLines ["1t-p 2t-m 1-6 j6-g 1-8 2s-v 1dkh-p 2s5-l 27u-v gw0-v"]),
  (34, RangeTable.ofLines ["2olc-x"]),
  (37, RangeTable.ofLines ["p4-2"]),
  (38, RangeTable.ofLines ["p2"]),
  (39, RangeTable.ofLines ["1fn4-a 1-e 1-6 1-1"]),
  (40, RangeTable.ofLines ["1fcw-13 3s-z"]),
  (48, RangeTable.ofLines ["10x-11 7mx-1b"]),
  (63, RangeTable.ofLines ["pa-1"]),
  (64, RangeTable.ofLines ["p8 1gc3-1e"]),
  (69, RangeTable.ofLines ["g4"]),
  (71, RangeTable.ofLines ["g5"]),
  (79, RangeTable.ofLines ["b2"]),
  (80, RangeTable.ofLines ["sg-f"]),
  (116, RangeTable.ofLines ["ov"]),
  (202, RangeTable.ofLines ["b3"]),
  (203, RangeTable.ofLines ["b4"]),
  (205, RangeTable.ofLines ["ax-1 8"]),
  (206, RangeTable.ofLines ["au"]),
  (207, RangeTable.ofLines ["b8"]),
  (209, RangeTable.ofLines ["bb"]),
  (210, RangeTable.ofLines ["ap"]),
  (211, RangeTable.ofLines ["ba 5"]),
  (213, RangeTable.ofLines ["bh"]),
  (214, RangeTable.ofLines ["bj"]),
  (217, RangeTable.ofLines ["c1-1"]),
  (218, RangeTable.ofLines ["bq 2 4"]),
  (219, RangeTable.ofLines ["c7"]),
  (928, RangeTable.ofLines ["x4j"]),
  (7264, RangeTable.ofLines ["3a8-11 1 5"]),
  (10792, RangeTable.ofLines ["fy"]),
  (10795, RangeTable.ofLines ["fu"]),
  (38864, RangeTable.ofLines ["3vk-27"])]

/-- The lower case of a character. One character has a lower case of two. -/
def lowerChar (c : Char) : List Char :=
  if c.toNat = 0x130 then ['i', Char.ofNat 0x307]
  else
    match lowerTables.find? fun t => t.2.contains c.toNat with
    | none => [c]
    | some (distance, _) => [Char.ofNat ((c.toNat : Int) + distance).toNat]

end Unicode

end SurfaceBridge
