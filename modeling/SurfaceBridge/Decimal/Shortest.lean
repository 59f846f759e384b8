set_option autoImplicit false

/-! # The shortest decimal of a binary number

A finite double stands for a rational number, and for every decimal that rounds to it. Among
the decimals that round to it the shortest has the fewest digits, and of those it is the one
nearest to the number itself; an exact tie goes to the even digit.

All arithmetic is on natural numbers. A positive double is `mantissa * 2 ^ exponent`; the
decimals that round to it lie between the middles of its two neighbours, ends included when
the mantissa is even.
-/

namespace SurfaceBridge

namespace Decimal

/-- A positive binary number `mantissa * 2 ^ exponent`. `narrow` says that the next smaller
number is half as far away as the next larger one. -/
structure Binary where
  mantissa : Nat
  exponent : Int
  narrow : Bool

/-- A decimal `digits * 10 ^ exponent`. -/
structure Scaled where
  digits : Nat
  exponent : Int
deriving DecidableEq

/-- The magnitude of a finite double that is not zero. -/
def Binary.ofBits (bits : UInt64) : Binary :=
  let fraction := (bits &&& 0xFFFFFFFFFFFFF).toNat
  let biased := ((bits >>> 52) &&& 0x7FF).toNat
  if biased = 0 then ⟨fraction, -1074, false⟩
  else ⟨fraction + 0x10000000000000, (biased : Int) - 1075, fraction = 0 && 1 < biased⟩

/-- Four times the number over a common denominator. -/
def Binary.numerator (b : Binary) : Nat := 4 * b.mantissa * Nat.pow 2 b.exponent.toNat

/-- The denominator of `Binary.numerator`. -/
def Binary.denominator (b : Binary) : Nat := 4 * Nat.pow 2 (-b.exponent).toNat

/-- The lower end of the decimals that round to the number, over the same denominator. -/
def Binary.lower (b : Binary) : Nat :=
  (4 * b.mantissa - (if b.narrow then 1 else 2)) * Nat.pow 2 b.exponent.toNat

/-- The upper end of the decimals that round to the number, over the same denominator. -/
def Binary.upper (b : Binary) : Nat :=
  (4 * b.mantissa + 2) * Nat.pow 2 b.exponent.toNat

/-- Whether `digits * 10 ^ place` rounds to the number. -/
def Binary.admits (b : Binary) (digits : Nat) (place : Int) : Bool :=
  let value := digits * Nat.pow 10 place.toNat * b.denominator
  let low := b.lower * Nat.pow 10 (-place).toNat
  let high := b.upper * Nat.pow 10 (-place).toNat
  if b.mantissa % 2 = 0 then decide (low ≤ value ∧ value ≤ high)
  else decide (low < value ∧ value < high)

/-- The decimal point's place: the number is at least `10 ^ magnitude` and less than ten times
that. -/
def Binary.magnitude (b : Binary) : Int :=
  if b.denominator ≤ b.numerator then
    ((Nat.toDigits 10 (b.numerator / b.denominator)).length : Int) - 1
  else
    let places := (List.range 400).find? fun k => b.denominator ≤ b.numerator * Nat.pow 10 (k + 1)
    Int.negSucc (places.getD 0)

/-- The nearest decimal with its last digit at `place`, if one rounds to the number. -/
def Binary.nearestAt (b : Binary) (place : Int) : Option Nat :=
  let top := b.numerator * Nat.pow 10 (-place).toNat
  let bottom := b.denominator * Nat.pow 10 place.toNat
  let below := top / bottom
  let twice := 2 * (top % bottom)
  let first := b.admits below place
  let second := b.admits (below + 1) place
  match first, second with
  | false, false => none
  | true, false => some below
  | false, true => some (below + 1)
  | true, true =>
    if twice < bottom then some below
    else if bottom < twice then some (below + 1)
    else some (if below % 2 = 0 then below else below + 1)

/-- Digits and place of the shortest decimal, looked for with one digit first and more digits
while none rounds to the number. -/
def Binary.shortest (b : Binary) : Scaled :=
  let found := (List.range 17).findSome? fun (k : Nat) =>
    let place := b.magnitude - (k : Int)
    (b.nearestAt place).map fun digits => Scaled.mk digits place
  found.getD ⟨0, 0⟩

/-- The shortest decimal of the magnitude of a finite double; zero for both zeros. -/
def shortest (x : Float) : Scaled :=
  let bits := x.toBits
  if bits &&& 0x7FFFFFFFFFFFFFFF = 0 then ⟨0, 0⟩ else (Binary.ofBits bits).shortest

end Decimal

end SurfaceBridge
