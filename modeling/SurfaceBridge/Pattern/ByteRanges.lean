import SurfaceBridge.Pattern.Expr

set_option autoImplicit false

/-! # Sets of characters as sequences of bytes

A machine that reads bytes follows a set of characters along sequences of byte ranges. A range of
code points is cut until its first and its last member have their bytes in the same blocks, so
that the bytes of its members are all the bytes between theirs. The sequences of a set come in
increasing order, and no character is in two of them.
-/

namespace SurfaceBridge

namespace Pattern

open Unicode (RangeTable)

/-- Ranges of bytes, one for each byte of a character. -/
abbrev ByteRanges := List (Nat × Nat)

/-- The characters of a set: surrogates are none. -/
def characters (s : RangeTable) : RangeTable :=
  (within 0 0xD7FF s ++ within 0xE000 RangeTable.lastPoint s).toArray

/-- Cuts a range of code points where the first block of some size starts in it, and where the
last one ends. -/
def cut (size : Nat) (range : Nat × Nat) : List (Nat × Nat) :=
  let (first, last) := range
  if first / size = last / size then [range]
  else
    let start := (first + size - 1) / size * size
    let stop := (last + 1) / size * size
    let parts := [(first, start), (start, stop), (stop, last + 1)].filter fun p => p.1 < p.2
    parts.map fun p => (p.1, p.2 - 1)

/-- The bytes of a character. -/
def bytes (c : Char) : List Nat := (String.utf8EncodeChar c).map (·.toNat)

/-- The sequences of byte ranges of a set. The ranges with the same number of bytes are cut at the
blocks of the last byte first. -/
def byteSequences (s : RangeTable) : List ByteRanges :=
  let several := within 0x80 0x7FF s ++ within 0x800 0xD7FF s ++ within 0xE000 0xFFFF s
    ++ within 0x10000 RangeTable.lastPoint s
  let pieces := ((several.flatMap (cut 0x40)).flatMap (cut 0x1000)).flatMap (cut 0x40000)
  (within 0 0x7F s ++ pieces).map fun (first, last) =>
    (bytes (Char.ofNat first)).zip (bytes (Char.ofNat last))

/-- What sequences start with, each with the rests of the sequences behind it. Only neighbours
are put together. -/
def branches : List ByteRanges → List ((Nat × Nat) × List ByteRanges)
  | [] => []
  | [] :: sequences => branches sequences
  | (r :: rest) :: sequences =>
    match branches sequences with
    | [] => [(r, [rest])]
    | (r', rests) :: others =>
      if r = r' then (r, rest :: rests) :: others else (r, [rest]) :: (r', rests) :: others

/-- The rests of sequences behind each of their beginnings, with bounded length; a beginning with
nothing behind it is left out. -/
def rests : Nat → List ByteRanges → List (List ByteRanges)
  | 0, _ => []
  | length + 1, sequences =>
    if sequences = [[]] then []
    else sequences :: (branches sequences).flatMap fun branch => rests length branch.2

/-- How many elements two lists have in common at their start. -/
def commonLength {α : Type} [BEq α] : List α → List α → Nat
  | a :: as, b :: bs => if a == b then commonLength as bs + 1 else 0
  | _, _ => 0

/-- The number of different beginnings of sequences, other than the empty one. -/
def beginnings (before : ByteRanges) : List ByteRanges → Nat
  | [] => 0
  | sequence :: sequences =>
    sequence.length - commonLength before sequence + beginnings sequence sequences

end Pattern

end SurfaceBridge
