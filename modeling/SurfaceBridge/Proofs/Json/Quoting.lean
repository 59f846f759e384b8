import SurfaceBridge.Proofs.Json.Numerals

set_option autoImplicit false

/-! # Texts that are read back

Writing a text escapes one character after the other, and reading it undoes one escape after the
other. So all that has to be known is what a single character becomes (`escapeChar_cases`): it
stands for itself, or it is a backslash and an escape that stands for it.
-/

namespace SurfaceBridge

namespace Json

/-! ## One character -/

theorem hexValue?_hexDigit (n : Nat) : hexValue? (hexDigit n) = some (n % 16) := by
  have hlt : n % 16 < 16 := Nat.mod_lt n (by omega)
  unfold hexDigit
  generalize n % 16 = m at hlt
  interval_cases m <;> rfl

theorem readHex_control {c : Char} (control : c.toNat < 0x20) (rest : List Char) :
    readHex ('0' :: '0' :: hexDigit (c.toNat / 16) :: hexDigit c.toNat :: rest)
      = .ok (c.toNat, rest) := by
  have hvalue : c.toNat / 16 % 16 * 16 + c.toNat % 16 = c.toNat := by omega
  have hzero : hexValue? '0' = some 0 := rfl
  simp only [readHex, hzero, hexValue?_hexDigit, Nat.zero_mul, Nat.zero_add, hvalue]

theorem readEscape_control {c : Char} (control : c.toNat < 0x20) (rest : List Char) :
    readEscape ('u' :: '0' :: '0' :: hexDigit (c.toNat / 16) :: hexDigit c.toNat :: rest)
      = .ok (c, rest) := by
  have hlow : ¬ (0xDC00 ≤ c.toNat ∧ c.toNat ≤ 0xDFFF) := by omega
  have hhigh : ¬ (0xD800 ≤ c.toNat ∧ c.toNat ≤ 0xDBFF) := by omega
  simp only [readEscape, Char.reduceEq, or_self, if_true, if_false, readHex_control control, hlow,
    hhigh, Char.ofNat_toNat]

/-- How a character is written: as itself, or as an escape that stands for it and for nothing
else. -/
theorem escapeChar_cases (c : Char) :
    (escapeChar c = [c] ∧ c ≠ '"' ∧ c ≠ '\\' ∧ ¬ c.toNat < 0x20)
      ∨ ∃ e, escapeChar c = '\\' :: e ∧ (∀ rest, readEscape (e ++ rest) = .ok (c, rest))
        ∧ ∀ fuel rest, skipText (fuel + 1) ('\\' :: (e ++ rest)) = skipText fuel rest := by
  unfold escapeChar
  split
  · rename_i h
    exact Or.inr ⟨['"'], by rw [h]; exact ⟨rfl, fun _ => rfl, fun _ _ => rfl⟩⟩
  rename_i hquote
  split
  · rename_i h
    exact Or.inr ⟨['\\'], by rw [h]; exact ⟨rfl, fun _ => rfl, fun _ _ => rfl⟩⟩
  rename_i hbackslash
  -- the five control characters that have an escape of one letter
  split
  · rename_i h
    exact Or.inr ⟨['b'], by rw [h]; exact ⟨rfl, fun _ => rfl, fun _ _ => rfl⟩⟩
  split
  · rename_i h
    exact Or.inr ⟨['t'], by rw [h]; exact ⟨rfl, fun _ => rfl, fun _ _ => rfl⟩⟩
  split
  · rename_i h
    exact Or.inr ⟨['n'], by rw [h]; exact ⟨rfl, fun _ => rfl, fun _ _ => rfl⟩⟩
  split
  · rename_i h
    exact Or.inr ⟨['f'], by rw [h]; exact ⟨rfl, fun _ => rfl, fun _ _ => rfl⟩⟩
  split
  · rename_i h
    exact Or.inr ⟨['r'], by rw [h]; exact ⟨rfl, fun _ => rfl, fun _ _ => rfl⟩⟩
  split
  · rename_i control
    have hskip : ∀ fuel rest, skipText (fuel + 1) ('\\' :: 'u' :: '0' :: '0'
        :: hexDigit (c.toNat / 16) :: hexDigit c.toNat :: rest) = skipText fuel rest := by
      intro fuel rest
      simp [skipText, readHex_control control]
    exact Or.inr ⟨['u', '0', '0', hexDigit (c.toNat / 16), hexDigit c.toNat], rfl,
      fun rest => readEscape_control control rest, hskip⟩
  · rename_i control
    exact Or.inl ⟨rfl, hquote, hbackslash, control⟩

/-! ## Whole texts -/

theorem readChars_escapeChar (fuel : Nat) (acc : List Char) (c : Char) (rest : List Char) :
    readChars (fuel + 1) acc (escapeChar c ++ rest) = readChars fuel (c :: acc) rest := by
  rcases escapeChar_cases c with ⟨h, hquote, hbackslash, control⟩ | ⟨e, h, hread, -⟩
  · simp [h, readChars, hquote, hbackslash, control]
  · simp [h, readChars, hread]

theorem skipText_escapeChar (fuel : Nat) (c : Char) (rest : List Char) :
    skipText (fuel + 1) (escapeChar c ++ rest) = skipText fuel rest := by
  rcases escapeChar_cases c with ⟨h, hquote, hbackslash, control⟩ | ⟨e, h, -, hskip⟩
  · simp [h, skipText, hquote, hbackslash, control]
  · rw [h]
    exact hskip fuel rest

theorem readChars_flatMap {cs : List Char} {fuel : Nat} (enough : cs.length < fuel)
    (acc rest : List Char) :
    readChars fuel acc (cs.flatMap escapeChar ++ '"' :: rest) = .ok (acc.reverse ++ cs, rest) := by
  induction cs generalizing fuel acc with
  | nil =>
      obtain ⟨fuel, rfl⟩ := Nat.exists_eq_succ_of_ne_zero (Nat.ne_of_gt enough)
      simp [readChars]
  | cons c cs ih =>
      obtain ⟨fuel, rfl⟩ := Nat.exists_eq_succ_of_ne_zero (Nat.ne_zero_of_lt enough)
      have hcs : cs.length < fuel := by simpa using enough
      rw [List.flatMap_cons, List.append_assoc, readChars_escapeChar, ih hcs]
      simp

theorem skipText_flatMap {cs : List Char} {fuel : Nat} (enough : cs.length < fuel)
    (rest : List Char) : skipText fuel (cs.flatMap escapeChar ++ '"' :: rest) = .ok rest := by
  induction cs generalizing fuel with
  | nil =>
      obtain ⟨fuel, rfl⟩ := Nat.exists_eq_succ_of_ne_zero (Nat.ne_of_gt enough)
      simp [skipText]
  | cons c cs ih =>
      obtain ⟨fuel, rfl⟩ := Nat.exists_eq_succ_of_ne_zero (Nat.ne_zero_of_lt enough)
      have hcs : cs.length < fuel := by simpa using enough
      rw [List.flatMap_cons, List.append_assoc, skipText_escapeChar, ih hcs]

theorem length_le_flatMap_escapeChar (cs : List Char) :
    cs.length ≤ (cs.flatMap escapeChar).length := by
  induction cs with
  | nil => simp
  | cons c cs ih =>
      have hpos : 1 ≤ (escapeChar c).length := by
        rcases escapeChar_cases c with ⟨h, -⟩ | ⟨e, h, -⟩ <;> simp [h]
      rw [List.flatMap_cons, List.length_append, List.length_cons]
      omega

/-- What stands behind the opening quote of a text. -/
def unquoted (s : String) : List Char := s.toList.flatMap escapeChar ++ ['"']

theorem quote_eq (s : String) : quote s = '"' :: unquoted s := rfl

theorem length_lt_unquoted (s : String) (rest : List Char) :
    s.toList.length < (unquoted s ++ rest).length + 1 := by
  have hle := length_le_flatMap_escapeChar s.toList
  simp only [unquoted, List.length_append, List.length_singleton]
  omega

theorem readText_unquoted (s : String) (rest : List Char) :
    readText (unquoted s ++ rest) = .ok (s, rest) := by
  have henough := length_lt_unquoted s rest
  have hread : readChars ((unquoted s ++ rest).length + 1) [] (unquoted s ++ rest)
      = .ok (s.toList, rest) := by
    rw [unquoted, List.append_assoc] at *
    exact readChars_flatMap henough [] rest
  rw [readText, hread]
  simp [Except.map]

theorem skipText_unquoted (s : String) (rest : List Char) :
    skipText ((unquoted s ++ rest).length + 1) (unquoted s ++ rest) = .ok rest := by
  have henough := length_lt_unquoted s rest
  rw [unquoted, List.append_assoc] at *
  exact skipText_flatMap henough rest

end Json

end SurfaceBridge
