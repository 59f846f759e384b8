import Mathlib
import SurfaceBridge.Text.Bytes
import SurfaceBridge.Text.Lines

set_option autoImplicit false

/-! # Columns and lines

A place in bytes between two characters of a line has a column, the number of characters in front
of it (`IsPlace`, `column`). Columns of places are in the same order as the places, which is all
that has to be known of the two ways to count.

A text is its lines with a newline between each two (`lines_induction`), and `numbered` pairs each
line with the number of characters in front of it.
-/

namespace SurfaceBridge

namespace Text

/-! ## Places and columns -/

/-- A place in bytes between two characters of a line, or at one of its ends. -/
def IsPlace (line : List Char) (place : Nat) : Prop :=
  ∃ front rest, line = front ++ rest ∧ byteLength front = place

/-- The number of characters in front of a place in bytes. -/
def column (line : List Char) (place : Nat) : Nat := (takeBytes place line).length

theorem isPlace_zero (line : List Char) : IsPlace line 0 := ⟨[], line, rfl, rfl⟩

theorem isPlace_byteLength (line : List Char) : IsPlace line (byteLength line) :=
  ⟨line, [], (List.append_nil _).symm, rfl⟩

theorem IsPlace.le {line : List Char} {place : Nat} (h : IsPlace line place) :
    place ≤ byteLength line := by
  obtain ⟨front, rest, rfl, rfl⟩ := h
  rw [byteLength_append]
  exact Nat.le_add_right _ _

@[simp] theorem column_append (front rest : List Char) :
    column (front ++ rest) (byteLength front) = front.length := by
  rw [column, takeBytes_append]

theorem column_byteLength (line : List Char) : column line (byteLength line) = line.length := by
  simpa using column_append line []

theorem eq_nil_of_byteLength {s : List Char} (h : byteLength s = 0) : s = [] := by
  cases s with
  | nil => rfl
  | cons c cs =>
      have := c.utf8Size_pos
      rw [byteLength_cons] at h
      omega

/-- Two places cut a line into three parts. -/
theorem exists_between {line : List Char} {start stop : Nat} (hstart : IsPlace line start)
    (hstop : IsPlace line stop) (le : start ≤ stop) :
    ∃ front middle rest, line = front ++ middle ++ rest ∧ byteLength front = start
      ∧ byteLength (front ++ middle) = stop := by
  obtain ⟨a, b, rfl, rfl⟩ := hstart
  obtain ⟨front, rest, hline, rfl⟩ := hstop
  -- of the two parts in front, one is a beginning of the other
  rcases List.prefix_or_prefix_of_prefix (List.prefix_append a b)
      (hline ▸ List.prefix_append front rest) with ⟨middle, rfl⟩ | ⟨more, rfl⟩
  · exact ⟨a, middle, rest, hline, rfl, rfl⟩
  · have hmore : more = [] := by
      rw [byteLength_append] at le
      exact eq_nil_of_byteLength (by omega)
    subst hmore
    exact ⟨front ++ [], [], b, by simp, rfl, by simp⟩

theorem column_le_column {line : List Char} {start stop : Nat} (hstart : IsPlace line start)
    (hstop : IsPlace line stop) (le : start ≤ stop) : column line start ≤ column line stop := by
  obtain ⟨front, middle, rest, rfl, rfl, rfl⟩ := exists_between hstart hstop le
  rw [column_append, List.append_assoc, column_append, List.length_append]
  exact Nat.le_add_right _ _

theorem column_lt_column {line : List Char} {start stop : Nat} (hstart : IsPlace line start)
    (hstop : IsPlace line stop) (lt : start < stop) : column line start < column line stop := by
  obtain ⟨front, middle, rest, rfl, rfl, rfl⟩ := exists_between hstart hstop (Nat.le_of_lt lt)
  have hmiddle : middle ≠ [] := by
    rintro rfl
    simp at lt
  have hpos := List.length_pos_iff.2 hmiddle
  rw [column_append, List.append_assoc, column_append, List.length_append]
  omega

/-- The number of characters between two places. -/
theorem length_takeBytes_dropBytes {line : List Char} {start stop : Nat}
    (hstart : IsPlace line start) (hstop : IsPlace line stop) (le : start ≤ stop) :
    column line start + (takeBytes (stop - start) (dropBytes start line)).length
      = column line stop := by
  obtain ⟨front, middle, rest, rfl, rfl, rfl⟩ := exists_between hstart hstop le
  have hmiddle : byteLength (front ++ middle) - byteLength front = byteLength middle := by
    rw [byteLength_append]
    omega
  rw [column_append, List.append_assoc, column_append, dropBytes_append, hmiddle,
    takeBytes_append, List.length_append]

/-! ## Lines -/

theorem lines_of_not_mem {line : List Char} (h : '\n' ∉ line) : lines line = [line] := by
  induction line with
  | nil => rfl
  | cons c cs ih =>
      have hc : c ≠ '\n' := fun hc => h (by simp [hc])
      rw [lines, if_neg hc, ih (fun hcs => h (List.mem_cons_of_mem c hcs))]

/-- A text is one line, or a line in front of another text. -/
theorem lines_induction {motive : List Char → Prop}
    (last : ∀ line, '\n' ∉ line → motive line)
    (more : ∀ line rest, '\n' ∉ line → motive rest → motive (line ++ '\n' :: rest))
    (text : List Char) : motive text := by
  by_cases h : '\n' ∈ text
  · obtain ⟨line, rest, rfl, hline⟩ := List.eq_append_cons_of_mem h
    exact more line rest hline (lines_induction last more rest)
  · exact last text h
termination_by text.length
decreasing_by
  subst_vars
  simp only [List.length_append, List.length_cons]
  omega

/-- Lines with the number of characters in front of each, if there are `offset` in front of the
first. -/
def numbered : Nat → List (List Char) → List (Nat × List Char)
  | _, [] => []
  | offset, line :: lines => (offset, line) :: numbered (offset + line.length + 1) lines

end Text

end SurfaceBridge
