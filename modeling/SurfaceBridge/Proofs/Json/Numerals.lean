import Mathlib
import SurfaceBridge.Json.Reader

set_option autoImplicit false

/-! # Numbers that are read back

An integer that fits 64 bits is read back from its digits. Digits do not say where they end, so
something has to stand behind them that is no digit, no point and no exponent: `Ends` says that
it is the end of the text or what ends an item, a list or an object.
-/

namespace SurfaceBridge

namespace Json

/-- A text that can stand behind a value. -/
def Ends (rest : List Char) : Prop := ∀ c ∈ rest.head?, c = ',' ∨ c = ']' ∨ c = '}'

theorem ends_nil : Ends [] := by
  intro c hc
  cases hc

theorem ends_cons {c : Char} (rest : List Char) (h : c = ',' ∨ c = ']' ∨ c = '}') :
    Ends (c :: rest) := by
  intro d hd
  cases hd
  exact h

theorem Ends.not_isDigit {c : Char} {rest : List Char} (h : Ends (c :: rest)) :
    c.isDigit = false := by
  rcases h c rfl with rfl | rfl | rfl <;> decide

/-! ## Digits -/

theorem naturalText_ne_nil (n : Nat) : naturalText n ≠ [] := Nat.toDigits_ne_nil

theorem isDigit_of_mem_naturalText {n : Nat} {c : Char} (h : c ∈ naturalText n) :
    c.isDigit = true :=
  Nat.isDigit_of_mem_toDigits (by omega) (by omega) h

/-- A number that is not zero does not start with a zero. -/
theorem head?_naturalText {n : Nat} (pos : 0 < n) : (naturalText n).head? ≠ some '0' := by
  induction n using Nat.strong_induction_on with
  | _ n ih =>
      by_cases hlt : n < 10
      · rw [naturalText, Nat.toDigits_of_lt_base hlt]
        intro h
        interval_cases n <;> exact absurd h (by decide)
      · have hhead : (naturalText n).head? = (naturalText (n / 10)).head? := by
          rw [naturalText, Nat.toDigits_of_base_le (by omega) (by omega)]
          exact List.head?_append_of_ne_nil _ (naturalText_ne_nil (n / 10))
        rw [hhead]
        exact ih (n / 10) (by omega) (by omega)

/-- The first digit of a number, and the digits behind it. -/
theorem exists_naturalText (n : Nat) :
    ∃ c ds, naturalText n = c :: ds ∧ c.isDigit = true ∧ (∀ d ∈ ds, d.isDigit = true)
      ∧ Nat.ofDigitChars 10 ds (digit c) = n ∧ (c = '0' → n = 0 ∧ ds = []) := by
  have hvalue : Nat.ofDigitChars 10 (naturalText n) 0 = n := Nat.ofDigitChars_ten_toDigits
  cases hn : naturalText n with
  | nil => exact absurd hn (naturalText_ne_nil n)
  | cons c ds =>
      have hmem : ∀ d ∈ c :: ds, d.isDigit = true :=
        fun d hd => isDigit_of_mem_naturalText (hn ▸ hd)
      refine ⟨c, ds, rfl, hmem c (by simp), fun d hd => hmem d (by simp [hd]), ?_, ?_⟩
      · rw [hn, Nat.ofDigitChars_cons] at hvalue
        simpa [digit] using hvalue
      · rintro rfl
        have hzero : n = 0 := by
          by_contra hne
          exact head?_naturalText (Nat.pos_of_ne_zero hne) (by rw [hn]; rfl)
        subst hzero
        exact ⟨rfl, (List.cons.inj hn).2.symm⟩

theorem le_ofDigitChars (ds : List Char) (value : Nat) : value ≤ Nat.ofDigitChars 10 ds value := by
  have hpow : 1 ≤ 10 ^ ds.length := Nat.one_le_pow _ _ (by omega)
  have hmul : 1 * value ≤ 10 ^ ds.length * value := Nat.mul_le_mul_right value hpow
  rw [Nat.ofDigitChars_eq_ofDigitChars_zero]
  omega

theorem readDigits_append {ds rest : List Char} (digits : ∀ c ∈ ds, c.isDigit = true)
    (ends : Ends rest) (value count : Nat) (fits : Nat.ofDigitChars 10 ds value < integerLimit) :
    readDigits (ds ++ rest) value count
      = (Nat.ofDigitChars 10 ds value, count + ds.length, rest) := by
  induction ds generalizing value count with
  | nil =>
      cases rest with
      | nil => rfl
      | cons c cs => simp [readDigits, ends.not_isDigit, Nat.ofDigitChars_nil]
  | cons c ds ih =>
      have hc : c.isDigit = true := digits c (by simp)
      have hvalue : Nat.ofDigitChars 10 (c :: ds) value
          = Nat.ofDigitChars 10 ds (10 * value + digit c) := Nat.ofDigitChars_cons
      rw [hvalue] at fits ⊢
      -- the value only grows, so it has not passed the limit yet
      have hstep : 10 * value + digit c < integerLimit :=
        Nat.lt_of_le_of_lt (le_ofDigitChars ds _) fits
      have hrest := ih (fun d hd => digits d (by simp [hd])) _ (count + 1) fits
      simp only [List.cons_append, readDigits, hc, hstep, decide_true, Bool.and_self, if_true,
        hrest, List.length_cons]
      congr 2
      omega

/-! ## Integers -/

theorem readAfterWhole_of_ends {rest : List Char} (ends : Ends rest) (positive : Bool) (n : Nat) :
    readAfterWhole positive n rest
      = if positive then .ok (.integer n, rest)
        else if n = 0 ∨ 9223372036854775808 < n then
          .ok (.real (-(UInt64.ofNat n).toFloat), rest)
        else .ok (.integer (-(n : Int)), rest) := by
  cases rest with
  | nil => rfl
  | cons c cs => rcases ends c rfl with rfl | rfl | rfl <;> rfl

theorem readUnsigned_naturalText {n : Nat} {rest : List Char} (fits : n < integerLimit)
    (ends : Ends rest) (positive : Bool) :
    readUnsigned positive (naturalText n ++ rest) = readAfterWhole positive n rest := by
  obtain ⟨c, ds, hn, hc, hds, hvalue, hzero⟩ := exists_naturalText n
  rw [hn, List.cons_append]
  by_cases h0 : c = '0'
  · obtain ⟨rfl, rfl⟩ := hzero h0
    subst h0
    cases rest with
    | nil => rfl
    | cons d cs => simp [readUnsigned, ends.not_isDigit]
  · have hread : readDigits (ds ++ rest) (digit c) 0 = (n, ds.length, rest) := by
      rw [readDigits_append hds ends _ _ (by rw [hvalue]; exact fits), hvalue, Nat.zero_add]
    unfold readUnsigned
    split
    · rename_i heq
      cases heq
    · rename_i heq
      exact absurd (List.cons.inj heq).1 h0
    · rename_i heq
      cases heq
      rw [if_pos hc, hread]
      cases rest with
      | nil => rfl
      | cons d cs => simp [ends.not_isDigit]

/-- The first character of an integer. -/
theorem exists_integerText (n : Int) :
    ∃ c cs, integerText n = c :: cs ∧ (c = '-' ∨ c.isDigit = true) := by
  obtain ⟨c, ds, hn, hc, -⟩ := exists_naturalText n.natAbs
  unfold integerText
  split
  · exact ⟨'-', _, rfl, Or.inl rfl⟩
  · exact ⟨c, ds, hn, Or.inr hc⟩

/-- An integer is read back from its text. -/
theorem readNumber_integerText {n : Int} {rest : List Char} (low : leastInteger ≤ n)
    (high : n < integerLimit) (ends : Ends rest) :
    readNumber (integerText n ++ rest) = .ok (.integer n, rest) := by
  have hfits : n.natAbs < integerLimit := by
    simp only [leastInteger, integerLimit] at *
    omega
  by_cases hneg : n < 0
  · have htext : integerText n = '-' :: naturalText n.natAbs := if_pos hneg
    have habs : ¬ (n.natAbs = 0 ∨ 9223372036854775808 < n.natAbs) := by
      simp only [leastInteger] at low
      omega
    have hsign : -(n.natAbs : Int) = n := by omega
    rw [htext]
    show readUnsigned false (naturalText n.natAbs ++ rest) = _
    rw [readUnsigned_naturalText hfits ends, readAfterWhole_of_ends ends, if_neg (by decide),
      if_neg habs, hsign]
  · have htext : integerText n = naturalText n.natAbs := if_neg hneg
    have hsign : (n.natAbs : Int) = n := by omega
    obtain ⟨c, ds, hn, hc, -⟩ := exists_naturalText n.natAbs
    have hplus : readNumber (naturalText n.natAbs ++ rest)
        = readUnsigned true (naturalText n.natAbs ++ rest) := by
      unfold readNumber
      rw [hn]
      split
      · rename_i heq
        cases heq
        exact absurd hc (by decide)
      · rfl
    rw [htext, hplus, readUnsigned_naturalText hfits ends, readAfterWhole_of_ends ends, if_pos rfl,
      hsign]

/-! ## Skipping -/

theorem dropWhile_isDigit_append {ds rest : List Char} (digits : ∀ c ∈ ds, c.isDigit = true)
    (ends : Ends rest) : (ds ++ rest).dropWhile Char.isDigit = rest := by
  rw [List.dropWhile_append_of_pos digits]
  cases rest with
  | nil => rfl
  | cons c cs => simp [ends.not_isDigit]

theorem skipAfterWhole_of_ends {rest : List Char} (ends : Ends rest) :
    skipAfterWhole rest = .ok rest := by
  cases rest with
  | nil => rfl
  | cons c cs => rcases ends c rfl with rfl | rfl | rfl <;> rfl

theorem skipUnsigned_naturalText {n : Nat} {rest : List Char} (ends : Ends rest) :
    skipUnsigned (naturalText n ++ rest) = .ok rest := by
  obtain ⟨c, ds, hn, hc, hds, -, hzero⟩ := exists_naturalText n
  rw [hn, List.cons_append]
  by_cases h0 : c = '0'
  · obtain ⟨-, rfl⟩ := hzero h0
    subst h0
    cases rest with
    | nil => rfl
    | cons d cs =>
        simp only [List.nil_append, skipUnsigned, ends.not_isDigit]
        exact skipAfterWhole_of_ends ends
  · unfold skipUnsigned
    split
    · rename_i heq
      cases heq
    · rename_i heq
      exact absurd (List.cons.inj heq).1 h0
    · rename_i heq
      cases heq
      rw [if_pos hc, dropWhile_isDigit_append hds ends, skipAfterWhole_of_ends ends]

end Json

end SurfaceBridge
