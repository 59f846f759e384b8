set_option autoImplicit false

/-! # Counters

A counter goes up by one and stays where it is at the largest number that fits its width.
-/

namespace SurfaceBridge

namespace Counter

/-- The largest number of 64 bits. -/
def limit64 : Nat := 18446744073709551615

/-- The next value of a counter that stays at `limit`. -/
def next (limit n : Nat) : Nat := if n < limit then n + 1 else limit

theorem next_le (limit n : Nat) : next limit n ≤ limit := by
  unfold next
  split <;> omega

end Counter

end SurfaceBridge
