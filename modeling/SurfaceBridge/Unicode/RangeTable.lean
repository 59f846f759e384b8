set_option autoImplicit false

/-! # Sets of code points

A set of code points is an array of ranges, each given by its first and last member, in
increasing order and with a gap after each range.

Tables of a standard are written as texts. A table text is a sequence of ranges with blanks
between them. A range is `gap` or `gap-extent`: `gap` counts the code points between the last
member of the range before (or the start) and the first member of this one, and `extent` is its
last member minus its first. Both are in base 36.
-/

namespace SurfaceBridge

namespace Unicode

/-- A set of code points as increasing ranges. -/
abbrev RangeTable := Array (Nat × Nat)

/-- The value of a digit in base 36. -/
def digitValue (c : Char) : Nat :=
  if '0' ≤ c ∧ c ≤ '9' then c.toNat - 48
  else if 'a' ≤ c ∧ c ≤ 'z' then c.toNat - 87
  else 0

/-- The state of reading a table text: the ranges so far, the first code point after them, the
gap if its mark has been passed, and the number being read. -/
structure RangeTable.Cursor where
  ranges : RangeTable
  next : Nat
  gap : Option Nat
  number : Nat
  started : Bool

namespace RangeTable

/-- Ends the range being read. -/
def Cursor.finish (s : Cursor) : Cursor :=
  if s.started then
    let (first, last) := match s.gap with
      | none => (s.next + s.number, s.next + s.number)
      | some gap => (s.next + gap, s.next + gap + s.number)
    ⟨s.ranges.push (first, last), last + 1, none, 0, false⟩
  else s

/-- Reads one character of a table text. -/
def Cursor.step (s : Cursor) (c : Char) : Cursor :=
  if c = ' ' then s.finish
  else if c = '-' then { s with gap := some s.number, number := 0 }
  else { s with number := 36 * s.number + digitValue c, started := true }

/-- The set that a table text in several lines writes. -/
def ofLines (lines : List String) : RangeTable :=
  let start : Cursor := ⟨#[], 0, none, 0, false⟩
  (lines.foldl (fun (s : Cursor) (line : String) => (line.toList.foldl Cursor.step s).finish)
    start).ranges

/-- Looks for a code point among the ranges at positions from `low` to below `high`. -/
def search (table : RangeTable) (n : Nat) : Nat → Nat → Nat → Bool
  | 0, _, _ => false
  | fuel + 1, low, high =>
    if low < high then
      let middle := (low + high) / 2
      match table[middle]? with
      | none => false
      | some (first, last) =>
        if n < first then search table n fuel low middle
        else if last < n then search table n fuel (middle + 1) high
        else true
    else false

/-- Whether a code point is in the set. Bisection halves the ranges left at each step. -/
def contains (table : RangeTable) (n : Nat) : Bool :=
  search table n (table.size + 1) 0 table.size

end RangeTable

end Unicode

end SurfaceBridge
