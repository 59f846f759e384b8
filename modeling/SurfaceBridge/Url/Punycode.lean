set_option autoImplicit false

/-! # Punycode

A label with characters outside ASCII is written in ASCII: first its ASCII characters, a hyphen
behind them if there are any, and then where the other characters have to be inserted. They are
inserted in the order of their code points, and each insertion is one number. It counts the
states skipped since the insertion before, where a state is a code point together with a place.

Numbers are written with 36 digits, the lowest first. The last digit of a number is the one below
its threshold, and thresholds adapt to the size of the numbers before.
-/

namespace SurfaceBridge

namespace Url

namespace Punycode

/-- The first code point that is inserted. -/
def firstPoint : Nat := 0x80

/-- The bias of the first number. -/
def firstBias : Nat := 72

/-- A digit from its value. -/
def digitChar (d : Nat) : Char := Char.ofNat (if d < 26 then 97 + d else 22 + d)

/-- The value of a digit. -/
def digitValue? (c : Char) : Option Nat :=
  if 'a' ≤ c ∧ c ≤ 'z' then some (c.toNat - 97)
  else if 'A' ≤ c ∧ c ≤ 'Z' then some (c.toNat - 65)
  else if c.isDigit then some (c.toNat - 22)
  else none

/-- The threshold of the digit at a place; places grow by 36. -/
def threshold (place bias : Nat) : Nat := max 1 (min 26 (place - bias))

theorem threshold_pos (place bias : Nat) : 1 ≤ threshold place bias := by
  unfold threshold; omega

/-- Scales a number down until it is at most 455, and counts the steps by 36. -/
def scale (delta bias : Nat) : Nat :=
  if 455 < delta then scale (delta / 35) (bias + 36) else bias + 36 * delta / (delta + 38)
termination_by delta
decreasing_by exact Nat.div_lt_self (by omega) (by omega)

/-- The bias after a number, when `count` characters are in place. -/
def adapt (delta count : Nat) (isFirst : Bool) : Nat :=
  let delta := if isFirst then delta / 700 else delta / 2
  scale (delta + delta / count) 0

/-- The digits of a number from a place on. -/
def encodeNumber (bias place n : Nat) : List Char :=
  let t := threshold place bias
  if n < t then [digitChar n]
  else digitChar (t + (n - t) % (36 - t)) :: encodeNumber bias (place + 36) ((n - t) / (36 - t))
termination_by n
decreasing_by
  have := threshold_pos place bias
  exact Nat.lt_of_le_of_lt (Nat.div_le_self _ _) (by omega)

/-- Where an encoding or decoding stands: the states skipped, the bias, and how many characters
are in place. -/
structure Progress where
  delta : Nat
  bias : Nat
  count : Nat

/-- Passes one character while `point` is inserted: a smaller one is skipped, and at `point`
itself the number is written. -/
def encodeAt (basic point : Nat) (p : Progress) : List Char → List Char × Progress
  | [] => ([], p)
  | c :: cs =>
    if c.toNat < point then encodeAt basic point { p with delta := p.delta + 1 } cs
    else if c.toNat = point then
      let bias := adapt p.delta (p.count + 1) (p.count = basic)
      let (digits, q) := encodeAt basic point ⟨0, bias, p.count + 1⟩ cs
      (encodeNumber p.bias 36 p.delta ++ digits, q)
    else encodeAt basic point p cs

/-- Inserts the code points in a list, which is increasing and starts at or after `next`. -/
def encodePoints (basic : Nat) (label : List Char) : List Nat → Nat → Progress → List Char
  | [], _, _ => []
  | point :: points, next, p =>
    let skipped := p.delta + (point - next) * (p.count + 1)
    let (digits, q) := encodeAt basic point { p with delta := skipped } label
    digits ++ encodePoints basic label points (point + 1) { q with delta := q.delta + 1 }

/-- Puts a number into an increasing list without repetitions. -/
def insertPoint (n : Nat) : List Nat → List Nat
  | [] => [n]
  | m :: ms =>
    if n < m then n :: m :: ms else if n = m then m :: ms else m :: insertPoint n ms

/-- The code points outside ASCII in a label, each once and in increasing order. -/
def points (label : List Char) : List Nat :=
  label.foldl (fun (found : List Nat) (c : Char) =>
    if c.toNat < firstPoint then found else insertPoint c.toNat found) []

/-- The ASCII form of a label. -/
def encode (label : List Char) : List Char :=
  let basic := label.filter (·.toNat < firstPoint)
  let start : Progress := ⟨0, firstBias, basic.length⟩
  basic ++ (if basic.isEmpty then [] else ['-'])
    ++ encodePoints basic.length label (points label) firstPoint start

/-- Reads a number from its digits, from a place on: `weight` is what the next digit counts. -/
def decodeNumber (bias : Nat) : Nat → Nat → Nat → List Char → Option (Nat × List Char)
  | _, _, _, [] => none
  | place, weight, sum, c :: cs =>
    match digitValue? c with
    | none => none
    | some d =>
      let t := threshold place bias
      let sum := sum + d * weight
      if d < t then some (sum, cs)
      else decodeNumber bias (place + 36) (weight * (36 - t)) sum cs

/-- Inserts what the numbers in a text say. Each number has a digit, so the length of the text
bounds how many there are. -/
def decodePoints : Nat → Nat → Bool → Nat → Nat → List Char → List Char → Option (List Char)
  | _, _, _, _, _, label, [] => some label
  | 0, _, _, _, _, _, _ :: _ => none
  | fuel + 1, bias, isFirst, point, place, label, cs =>
    match decodeNumber bias 36 1 0 cs with
    | none => none
    | some (delta, rest) =>
      let count := label.length + 1
      let point := point + (place + delta) / count
      let place := (place + delta) % count
      if point.isValidChar then
        decodePoints fuel (adapt delta count isFirst) false point (place + 1)
          (label.insertIdx place (Char.ofNat point)) rest
      else none

/-- The ASCII characters of an encoded label and the digits behind them. The last hyphen is
between the two, unless nothing is in front of it. -/
def split (s : List Char) : List Char × List Char :=
  let behind := s.reverse.takeWhile (· ≠ '-')
  let basic := s.take (s.length - behind.length - 1)
  if basic.isEmpty then ([], s) else (basic, behind.reverse)

/-- The label with an ASCII form. -/
def decode? (s : List Char) : Option (List Char) :=
  let (basic, digits) := split s
  if basic.all (·.toNat < firstPoint) then
    decodePoints digits.length firstBias true firstPoint 0 basic digits
  else none

end Punycode

end Url

end SurfaceBridge
