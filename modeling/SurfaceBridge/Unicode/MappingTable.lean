import SurfaceBridge.Unicode.RangeTable

set_option autoImplicit false

/-! # Characters that stand for others

A mapping is an array of ranges in increasing order, each with the code points that its members
stand for. Where these are one code point, it is what the first member stands for, and the next
member stands for the next code point.

A mapping is written as a text of entries `range=targets` with blanks between them. The range is
written as in the text of a set, and the targets are numbers in base 36 with dots between them.
-/

namespace SurfaceBridge

namespace Unicode

/-- Some characters that follow each other and what they stand for. -/
structure MappingEntry where
  first : Nat
  last : Nat
  targets : List Nat

/-- What the characters of some ranges stand for. -/
abbrev MappingTable := Array MappingEntry

namespace MappingTable

/-- The state of reading a mapping text: the entries so far, the range being read, the targets
read of it, and whether its `=` has been passed. -/
structure Cursor where
  entries : MappingTable
  range : RangeTable.Cursor
  targets : List Nat
  isTarget : Bool

/-- Ends the entry being read. -/
def Cursor.finish (s : Cursor) : Cursor :=
  if s.isTarget then
    let range := s.range
    match range.ranges.back? with
    | none => s
    | some (first, last) =>
      let targets := (range.number :: s.targets).reverse
      ⟨s.entries.push ⟨first, last, targets⟩, ⟨#[], range.next, none, 0, false⟩, [], false⟩
  else s

/-- Reads one character of a mapping text. -/
def Cursor.step (s : Cursor) (c : Char) : Cursor :=
  if c = ' ' then s.finish
  else if c = '=' then { s with range := s.range.finish, isTarget := true }
  else if c = '.' then
    { s with range := { s.range with number := 0 }, targets := s.range.number :: s.targets }
  else { s with range := s.range.step c }

/-- The mapping that a text in several lines writes. -/
def ofLines (lines : List String) : MappingTable :=
  let start : Cursor := ⟨#[], ⟨#[], 0, none, 0, false⟩, [], false⟩
  (lines.foldl (fun (s : Cursor) (line : String) => (line.toList.foldl Cursor.step s).finish)
    start).entries

/-- Looks for a code point among the entries at positions from `low` to below `high`. -/
def search (table : MappingTable) (n : Nat) : Nat → Nat → Nat → Option MappingEntry
  | 0, _, _ => none
  | fuel + 1, low, high =>
    if low < high then
      let middle := (low + high) / 2
      match table[middle]? with
      | none => none
      | some entry =>
        if n < entry.first then search table n fuel low middle
        else if entry.last < n then search table n fuel (middle + 1) high
        else some entry
    else none

/-- What a code point stands for, if the mapping has it. Bisection halves the entries left at
each step. -/
def get? (table : MappingTable) (n : Nat) : Option (List Nat) :=
  (search table n (table.size + 1) 0 table.size).map fun entry =>
    match entry.targets with
    | [target] => [target + (n - entry.first)]
    | targets => targets

/-- The code point that stands for some code points, if there is one. -/
def inverse? (table : MappingTable) (targets : List Nat) : Option Nat :=
  (table.find? fun entry => entry.targets == targets).map (·.first)

end MappingTable

end Unicode

end SurfaceBridge
