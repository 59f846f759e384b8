import SurfaceBridge.Unicode.RangeSet

set_option autoImplicit false

/-! # Simple case folding

Two characters are the same up to case when they fold to the same character. Folding moves a
character by a distance that many characters share, so the table lists, for each distance, the
characters that it moves.
-/

namespace SurfaceBridge

namespace Unicode

/-- The distances of folding and the characters each of them moves. -/
def foldTables : List (Int × RangeTable) := [
  (-42319, RangeTable.ofLines ["x4b"]),
  (-42315, RangeTable.ofLines ["x4c"]),
  (-42308, RangeTable.ofLines ["x4a 3"]),
  (-42307, RangeTable.ofLines ["x51"]),
  (-42305, RangeTable.ofLines ["x4d"]),
  (-42282, RangeTable.ofLines ["x4h"]),
  (-42280, RangeTable.ofLines ["x3h"]),
  (-42261, RangeTable.ofLines ["x4i"]),
  (-42258, RangeTable.ofLines ["x4g"]),
  (-38864, RangeTable.ofLines ["xv4-27"]),
  (-35384, RangeTable.ofLines ["x52"]),
  (-35332, RangeTable.ofLines ["x31"]),
  (-10815, RangeTable.ofLines ["8se-1"]),
  (-10783, RangeTable.ofLines ["8rz"]),
  (-10782, RangeTable.ofLines ["8s0"]),
  (-10780, RangeTable.ofLines ["8rx"]),
  (-10749, RangeTable.ofLines ["8ry"]),
  (-10743, RangeTable.ofLines ["8rm"]),
  (-10727, RangeTable.ofLines ["8ro"]),
  (-8383, RangeTable.ofLines ["6ju"]),
  (-8262, RangeTable.ofLines ["6jv"]),
  (-7615, RangeTable.ofLines ["61q"]),
  (-7517, RangeTable.ofLines ["6jq"]),
  (-7173, RangeTable.ofLines ["69q"]),
  (-6222, RangeTable.ofLines ["5mo"]),
  (-6221, RangeTable.ofLines ["5mp"]),
  (-6212, RangeTable.ofLines ["5mq"]),
  (-6211, RangeTable.ofLines ["5mt"]),
  (-6210, RangeTable.ofLines ["5mr-1"]),
  (-6204, RangeTable.ofLines ["5mu"]),
  (-6180, RangeTable.ofLines ["5mv"]),
  (-3814, RangeTable.ofLines ["8rn"]),
  (-3008, RangeTable.ofLines ["5n4-16 2-2"]),
  (-268, RangeTable.ofLines ["an"]),
  (-195, RangeTable.ofLines ["g3"]),
  (-163, RangeTable.ofLines ["fx"]),
  (-130, RangeTable.ofLines ["f4 d8-2"]),
  (-128, RangeTable.ofLines ["6bc-1"]),
  (-126, RangeTable.ofLines ["6be-1"]),
  (-121, RangeTable.ofLines ["ag"]),
  (-112, RangeTable.ofLines ["6ay-1"]),
  (-100, RangeTable.ofLines ["6ai-1"]),
  (-97, RangeTable.ofLines ["dy"]),
  (-86, RangeTable.ofLines ["6a0-3"]),
  (-74, RangeTable.ofLines ["69m-1"]),
  (-64, RangeTable.ofLines ["s5"]),
  (-60, RangeTable.ofLines ["s4"]),
  (-58, RangeTable.ofLines ["61n"]),
  (-56, RangeTable.ofLines ["dz"]),
  (-54, RangeTable.ofLines ["s0"]),
  (-48, RangeTable.ofLines ["s1 wcy"]),
  (-30, RangeTable.ofLines ["r4"]),
  (-25, RangeTable.ofLines ["r5"]),
  (-22, RangeTable.ofLines ["ra"]),
  (-15, RangeTable.ofLines ["r9"]),
  (-9, RangeTable.ofLines ["69o f 1b"]),
  (-8, RangeTable.ofLines ["3y0-5 26i-7 8-5 a-7 8-7 8-5 b 1 1 1 8-7 o-7 8-7 8-7 8-1 u-1 e-1"]),
  (-7, RangeTable.ofLines ["s9 5iq"]),
  (1, RangeTable.ofLines ["74 1 1 1 1 1 1 1 1 1 1 1 1 1 1 1 1 1 1 1 1 1 1 1 3 1 1 2 1 1 1 1 1 1 1 2 1 1 1 1 1 1 1",
    "1 1 1 1 1 1 1 1 1 1 1 1 1 1 1 2 1 1 4 1 2 3 5 6 7 1 1 2 4 2 3 1 2 3 8 2 2 1 1 1 1 1 1 1",
    "1 2 1 1 1 1 1 1 1 1 3 1 3 1 1 1 1 1 1 1 1 1 1 1 1 1 1 1 1 1 1 1 3 1 1 1 1 1 1 1 1 8 5 4",
    "1 1 1 1 81 1 3 23 l 1 1 1 1 1 1 1 1 1 1 1 8 2 2t 1 1 1 1 1 1 1 1 1 1 1 1 1 1 1 1 9 1 1",
    "1 1 1 1 1 1 1 1 1 1 1 1 1 1 1 1 1 1 1 1 1 1 1 1 2 1 1 1 1 1 1 2 1 1 1 1 1 1 1 1 1 1 1 1",
    "1 1 1 1 1 1 1 1 1 1 1 1 1 1 1 1 1 1 1 1 1 1 1 1 1 1 1 1 1 1 1 1 1 1 1 4wh 1 1 1 1 1 1 1",
    "1 1 1 1 1 1 1 1 1 1 1 1 1 1 1 1 1 1 1 1 1 1 1 1 1 1 1 1 1 1 1 1 1 1 1 1 1 1 1 1 1 1 1 1",
    "1 1 1 1 1 1 1 1 1 1 1 1 1 1 1 1 1 1 1 1 1 1 1 b 1 1 1 1 1 1 1 1 1 1 1 1 1 1 1 1 1 1 1 1",
    "1 1 1 1 1 1 1 1 1 1 1 1 1 1 1 1 1 1 1 1 1 1 1 1 1 1 1 hw 258 6 1 1 6 2 a 1 1 1 1 1 1 1",
    "1 1 1 1 1 1 1 1 1 1 1 1 1 1 1 1 1 1 1 1 1 1 1 1 1 1 1 1 1 1 1 1 1 1 1 1 1 1 1 1 1 1 8 1",
    "4 nyl 1 1 1 1 1 1 1 1 1 1 1 1 1 1 1 1 1 1 1 1 1 1 j 1 1 1 1 1 1 1 1 1 1 1 1 1 3r 1 1 1",
    "1 1 1 3 1 1 1 1 1 1 1 1 1 1 1 1 1 1 1 1 1 1 1 1 1 1 1 1 1 1 1 1 1 1 a 1 2 1 1 1 1 4 4 1",
    "3 1 1 1 1 1 1 1 1 1 b 1 1 1 1 1 1 1 4 1 6 5 1 s"]),
  (2, RangeTable.ofLines ["ck 2 2 12"]),
  (8, RangeTable.ofLines ["r3"]),
  (15, RangeTable.ofLines ["xs"]),
  (16, RangeTable.ofLines ["6lc-f"]),
  (26, RangeTable.ofLines ["792-p"]),
  (28, RangeTable.ofLines ["6k2"]),
  (32, RangeTable.ofLines ["1t-p 2t-m 1-6 j6-g 1-8 2s-v 1dkh-p 50l-v gw0-v"]),
  (34, RangeTable.ofLines ["2olc-x"]),
  (37, RangeTable.ofLines ["p4-2"]),
  (38, RangeTable.ofLines ["p2"]),
  (39, RangeTable.ofLines ["1fn4-a 1-e 1-6 1-1"]),
  (40, RangeTable.ofLines ["1fcw-13 3s-z"]),
  (48, RangeTable.ofLines ["10x-11 7mx-1b"]),
  (63, RangeTable.ofLines ["pa-1"]),
  (64, RangeTable.ofLines ["p8 1gc3-1e"]),
  (69, RangeTable.ofLines ["g4"]),
  (71, RangeTable.ofLines ["g5"]),
  (79, RangeTable.ofLines ["b2"]),
  (80, RangeTable.ofLines ["sg-f"]),
  (116, RangeTable.ofLines ["n9 1l"]),
  (202, RangeTable.ofLines ["b3"]),
  (203, RangeTable.ofLines ["b4"]),
  (205, RangeTable.ofLines ["ax-1 8"]),
  (206, RangeTable.ofLines ["au"]),
  (207, RangeTable.ofLines ["b8"]),
  (209, RangeTable.ofLines ["bb"]),
  (210, RangeTable.ofLines ["ap"]),
  (211, RangeTable.ofLines ["ba 5"]),
  (213, RangeTable.ofLines ["bh"]),
  (214, RangeTable.ofLines ["bj"]),
  (217, RangeTable.ofLines ["c1-1"]),
  (218, RangeTable.ofLines ["bq 2 4"]),
  (219, RangeTable.ofLines ["c7"]),
  (775, RangeTable.ofLines ["51"]),
  (928, RangeTable.ofLines ["x4j"]),
  (7264, RangeTable.ofLines ["3a8-11 1 5"]),
  (10792, RangeTable.ofLines ["fy"]),
  (10795, RangeTable.ofLines ["fu"]),
  (35267, RangeTable.ofLines ["5mw"])]

/-- The characters that folding moves, with the characters they fold to. -/
def foldPairs : List (Nat × Nat) :=
  foldTables.flatMap fun (distance, table) =>
    table.toList.flatMap fun (first, last) =>
      (List.range (last + 1 - first)).map fun k =>
        (first + k, ((first + k : Nat) + distance : Int).toNat)

/-- A set together with all characters that are the same as a member up to case. -/
def foldClosure (s : RangeTable) : RangeTable :=
  let folds := foldPairs.filter fun p => s.contains p.1
  let folded := RangeTable.ofRanges (s.toList ++ folds.map fun p => (p.2, p.2))
  let sources := foldPairs.filter fun p => folded.contains p.2
  RangeTable.ofRanges (folded.toList ++ sources.map fun p => (p.1, p.1))

end Unicode

end SurfaceBridge
