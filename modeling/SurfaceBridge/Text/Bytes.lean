set_option autoImplicit false

/-! # Positions in bytes

Places in a line may be counted in characters or in the bytes that the characters take. A place in
bytes lies between two characters if the characters in front of it take as many bytes; a place in
the middle of a character counts as one behind it.
-/

namespace SurfaceBridge

namespace Text

/-- The bytes that characters take. -/
def byteLength : List Char → Nat
  | [] => 0
  | c :: cs => c.utf8Size + byteLength cs

/-- The characters in front of a place in bytes, and those behind it. -/
def splitBytes : Nat → List Char → List Char × List Char
  | 0, s => ([], s)
  | _ + 1, [] => ([], [])
  | n + 1, c :: cs =>
    let (front, rest) := splitBytes (n + 1 - c.utf8Size) cs
    (c :: front, rest)

/-- The characters in front of a place in bytes. -/
def takeBytes (n : Nat) (s : List Char) : List Char := (splitBytes n s).1

/-- The characters behind a place in bytes. -/
def dropBytes (n : Nat) (s : List Char) : List Char := (splitBytes n s).2

@[simp] theorem byteLength_nil : byteLength [] = 0 := rfl

@[simp] theorem byteLength_cons (c : Char) (cs : List Char) :
    byteLength (c :: cs) = c.utf8Size + byteLength cs := rfl

@[simp] theorem byteLength_append (s t : List Char) :
    byteLength (s ++ t) = byteLength s + byteLength t := by
  induction s with
  | nil => simp
  | cons c s ih => rw [List.cons_append, byteLength_cons, byteLength_cons, ih, Nat.add_assoc]

/-- Between two characters a line is split exactly. -/
theorem splitBytes_append (front rest : List Char) :
    splitBytes (byteLength front) (front ++ rest) = (front, rest) := by
  induction front with
  | nil => cases rest <;> rfl
  | cons c front ih =>
    have hc := c.utf8Size_pos
    obtain ⟨n, hn⟩ : ∃ n, c.utf8Size + byteLength front = n + 1 :=
      Nat.exists_eq_succ_of_ne_zero (by omega)
    have hrest : n + 1 - c.utf8Size = byteLength front := by omega
    rw [byteLength_cons, hn, List.cons_append, splitBytes, hrest, ih]

@[simp] theorem takeBytes_append (front rest : List Char) :
    takeBytes (byteLength front) (front ++ rest) = front :=
  congrArg Prod.fst (splitBytes_append front rest)

@[simp] theorem dropBytes_append (front rest : List Char) :
    dropBytes (byteLength front) (front ++ rest) = rest :=
  congrArg Prod.snd (splitBytes_append front rest)

end Text

end SurfaceBridge
