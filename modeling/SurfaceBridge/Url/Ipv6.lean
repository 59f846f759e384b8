import SurfaceBridge.Url.PercentEncoding

set_option autoImplicit false

/-! # Addresses of version 6

An address is eight pieces of 16 bits. They are written in hexadecimal with colons between them.
Two colons at one place stand for one or more pieces of zero, and the last two pieces may be
written as four decimal numbers with dots between them.
-/

namespace SurfaceBridge

namespace Url

/-- An address of version 6. -/
structure Ipv6 where
  pieces : List Nat
  length_eq : pieces.length = 8
deriving DecidableEq

namespace Ipv6

/-- A decimal number up to 255 without needless zeros in front. -/
def byte? (s : List Char) : Option Nat :=
  let value := s.foldl (fun (n : Nat) (c : Char) => 10 * n + (c.toNat - 48)) 0
  let isPlain := match s with
    | [] => false
    | ['0'] => true
    | '0' :: _ => false
    | _ => s.all Char.isDigit
  if isPlain && value ≤ 255 then some value else none

/-- The two pieces that four decimal numbers write. -/
def dotted? (s : List Char) : Option (List Nat) :=
  match (s.splitOnP (· = '.')).mapM byte? with
  | some [a, b, c, d] => some [256 * a + b, 256 * c + d]
  | _ => none

/-- The piece that one to four hexadecimal digits write. -/
def piece? (s : List Char) : Option Nat :=
  if s.isEmpty ∨ 4 < s.length then none
  else
    s.foldl (fun (number : Option Nat) (c : Char) =>
      match number, hexValue? c with
      | some n, some d => some (16 * n + d)
      | _, _ => none) (some 0)

/-- The pieces in a list of them. The last one may be two in decimal form. -/
def pieces? : List (List Char) → Option (List Nat)
  | [] => some []
  | [s] => if s.contains '.' then dotted? s else (piece? s).map fun n => [n]
  | s :: rest =>
    match piece? s, pieces? rest with
    | some n, some ns => some (n :: ns)
    | _, _ => none

/-- The pieces of a text without two colons at one place; the empty text has none. -/
def side? (s : List Char) : Option (List Nat) :=
  if s.isEmpty then some [] else pieces? (s.splitOnP (· = ':'))

/-- What is in front of the first two colons at one place and what is behind them. -/
def splitGap : List Char → Option (List Char × List Char)
  | [] => none
  | ':' :: ':' :: rest => some ([], rest)
  | c :: rest => (splitGap rest).map fun (before, after) => (c :: before, after)

/-- An address of the pieces in front of a gap and behind it. The gap stands for one or more
pieces. -/
def ofSides (before after : List Nat) : Option Ipv6 :=
  let gap := 8 - before.length - after.length
  let pieces := before ++ List.replicate gap 0 ++ after
  if h : 0 < gap ∧ pieces.length = 8 then some ⟨pieces, h.2⟩ else none

/-- The address in a text. -/
def parse (s : List Char) : Option Ipv6 :=
  match splitGap s with
  | none =>
    match side? s with
    | none => none
    | some pieces => if h : pieces.length = 8 then some ⟨pieces, h⟩ else none
  | some (before, after) =>
    if before.contains '.' then none
    else
      match side? before, side? after with
      | some before, some after => ofSides before after
      | _, _ => none

/-- The runs of zeros in a list of pieces, each with its place and its length. -/
def zeroRuns : Nat → Nat → List Nat → List (Nat × Nat)
  | place, length, [] => [(place - length, length)]
  | place, length, n :: ns =>
    if n = 0 then zeroRuns (place + 1) (length + 1) ns
    else (place - length, length) :: zeroRuns (place + 1) 0 ns

/-- The first of the longest runs of at least two zeros. -/
def longestRun (pieces : List Nat) : Option (Nat × Nat) :=
  let longest := (zeroRuns 0 0 pieces).foldl
    (fun (best : Nat × Nat) (run : Nat × Nat) => if best.2 < run.2 then run else best) (0, 1)
  if longest.2 < 2 then none else some longest

/-- Pieces in hexadecimal with colons between them. -/
def join (pieces : List Nat) : List Char :=
  [':'].intercalate (pieces.map (Nat.toDigits 16))

/-- An address with the first of its longest runs of zeros as two colons. -/
def text (a : Ipv6) : List Char :=
  match longestRun a.pieces with
  | none => join a.pieces
  | some (place, length) =>
    join (a.pieces.take place) ++ ':' :: ':' :: join (a.pieces.drop (place + length))

end Ipv6

end Url

end SurfaceBridge
