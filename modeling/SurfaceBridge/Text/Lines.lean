set_option autoImplicit false

/-! # Lines

A text is split at each newline. The empty text is one empty line, and a newline at the end is
followed by an empty line.
-/

namespace SurfaceBridge

namespace Text

/-- The lines of a text, without the newlines between them. -/
def lines : List Char → List (List Char)
  | [] => [[]]
  | c :: cs =>
    if c = '\n' then [] :: lines cs
    else
      match lines cs with
      | [] => [[c]]
      | l :: ls => (c :: l) :: ls

theorem lines_ne_nil (s : List Char) : lines s ≠ [] := by
  cases s with
  | nil => simp [lines]
  | cons c cs =>
    rw [lines]
    split
    · simp
    · split <;> simp

/-- A newline between two texts ends the lines of the first. -/
theorem lines_append (a b : List Char) : lines (a ++ '\n' :: b) = lines a ++ lines b := by
  induction a with
  | nil => simp [lines]
  | cons c cs ih =>
    by_cases hc : c = '\n'
    · simp [lines, hc, ih]
    · simp only [List.cons_append, lines, hc, if_false, ih]
      cases h : lines cs with
      | nil => exact absurd h (lines_ne_nil cs)
      | cons l ls => rfl

end Text

end SurfaceBridge
