import SurfaceBridge.Unicode.RangeTable

set_option autoImplicit false

/-! # Set operations on code points

The operations on range tables. A list of ranges in any order becomes a table by sorting the
ranges by their first members and joining those that overlap or touch.
-/

namespace SurfaceBridge

namespace Unicode

namespace RangeTable

/-- The last code point. -/
def lastPoint : Nat := 0x10FFFF

/-- Joins ranges that are sorted by their first members. `first` and `last` are the range that
is being built. -/
def join (first last : Nat) : List (Nat × Nat) → List (Nat × Nat)
  | [] => [(first, last)]
  | (a, b) :: rest =>
    if a ≤ last + 1 then join first (max last b) rest else (first, last) :: join a b rest

/-- The set of the members of some ranges. -/
def ofRanges (ranges : List (Nat × Nat)) : RangeTable :=
  match ranges.mergeSort fun a b => a.1 ≤ b.1 with
  | [] => #[]
  | (a, b) :: rest => (join a b rest).toArray

/-- The set with one member. -/
def singleton (n : Nat) : RangeTable := #[(n, n)]

/-- The members of either set. -/
def union (s t : RangeTable) : RangeTable := ofRanges (s.toList ++ t.toList)

/-- The gaps between ranges in increasing order, from `next` on. -/
def gaps (next : Nat) : List (Nat × Nat) → List (Nat × Nat)
  | [] => if next ≤ lastPoint then [(next, lastPoint)] else []
  | (a, b) :: rest => if next < a then (next, a - 1) :: gaps (b + 1) rest else gaps (b + 1) rest

/-- The code points that are not in a set. -/
def complement (s : RangeTable) : RangeTable := (gaps 0 s.toList).toArray

/-- The members of both sets. -/
def inter (s t : RangeTable) : RangeTable := complement (union (complement s) (complement t))

/-- The members of the first set that are not in the second. -/
def diff (s t : RangeTable) : RangeTable := inter s (complement t)

/-- The members of exactly one of the sets. -/
def symmDiff (s t : RangeTable) : RangeTable := diff (union s t) (inter s t)

/-- Whether all members are ASCII characters. -/
def isAscii (s : RangeTable) : Bool := s.all fun r => r.2 < 0x80

end RangeTable

end Unicode

end SurfaceBridge
