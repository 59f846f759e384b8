import SurfaceBridge.Unicode.Composition

set_option autoImplicit false

/-! # Composed form

Texts that differ only in how their characters are composed have the same composed form. It is
made by taking every character apart, bringing the marks on each base into the order of their
classes, and putting together what can be. Only characters that are valid in domain names are
known here.
-/

namespace SurfaceBridge

namespace Unicode

namespace Hangul

/-- The first syllable of the Korean script. -/
def firstSyllable : Nat := 0xAC00

/-- How many syllables there are. -/
def syllableCount : Nat := 11172

/-- The code points before the first trailing consonant. -/
def trailingBase : Nat := 0x11A7

/-- The characters that a syllable is made of. -/
def decompose (c : Nat) : List Nat :=
  let n := c - firstSyllable
  let parts := [0x1100 + n / 588, 0x1161 + n % 588 / 28]
  if n % 28 = 0 then parts else parts ++ [trailingBase + n % 28]

/-- The syllable that two characters make. -/
def compose? (a b : Nat) : Option Nat :=
  if 0x1100 ≤ a ∧ a < 0x1113 ∧ 0x1161 ≤ b ∧ b < 0x1176 then
    some (firstSyllable + (a - 0x1100) * 588 + (b - 0x1161) * 28)
  else if firstSyllable ≤ a ∧ a < firstSyllable + syllableCount ∧ (a - firstSyllable) % 28 = 0
      ∧ trailingBase < b ∧ b < trailingBase + 28 then
    some (a + (b - trailingBase))
  else none

end Hangul

/-- The characters that a character is made of, given those that each of its parts is made of. -/
def decomposeWith (decompose : Nat → List Nat) (c : Nat) : List Nat :=
  if c < 0xC0 then [c]
  else if Hangul.firstSyllable ≤ c ∧ c < Hangul.firstSyllable + Hangul.syllableCount then
    Hangul.decompose c
  else
    match compositions.get? c with
    | none => [c]
    | some parts => parts.flatMap decompose

/-- The characters that a character is made of. No character is nested deeper than `fuel`. -/
def decomposeChar : Nat → Nat → List Nat
  | 0, c => [c]
  | fuel + 1, c => decomposeWith (decomposeChar fuel) c

/-- Puts a mark behind the marks in front of it whose class is not higher. The marks before it
come in reverse. -/
def insertMark (c : Nat) : List Nat → List Nat
  | [] => [c]
  | d :: ds =>
    if combiningClass c ≠ 0 ∧ combiningClass c < combiningClass d then d :: insertMark c ds
    else c :: d :: ds

/-- A text with the marks on each base in the order of their classes. -/
def orderMarks (s : List Nat) : List Nat :=
  (s.foldl (fun (done : List Nat) (c : Nat) => insertMark c done) []).reverse

/-- The character that two characters make. -/
def composePair? (a b : Nat) : Option Nat :=
  if b < 0x300 then none
  else
    match Hangul.compose? a b with
    | some c => some c
    | none => compositions.inverse? [a, b]

/-- Composes a base with the marks and bases behind it. The marks that stay on it come in
reverse, and a mark behind one of its own class or a higher one cannot be reached. -/
def composeFrom (base : Nat) (marks : List Nat) : List Nat → List Nat
  | [] => base :: marks.reverse
  | c :: cs =>
    let isReached := match marks with
      | [] => true
      | last :: _ => combiningClass last < combiningClass c
    match if isReached then composePair? base c else none with
    | some whole => composeFrom whole marks cs
    | none =>
      if combiningClass c = 0 then base :: (marks.reverse ++ composeFrom c [] cs)
      else composeFrom base (c :: marks) cs

/-- Composes an ordered text from its first base on. -/
def composeMarks : List Nat → List Nat
  | [] => []
  | c :: cs => if combiningClass c = 0 then composeFrom c [] cs else c :: composeMarks cs

/-- The composed form of a text. -/
def composed (s : List Char) : List Char :=
  let parts := s.flatMap fun c => decomposeChar 4 c.toNat
  (composeMarks (orderMarks parts)).map Char.ofNat

end Unicode

end SurfaceBridge
