import SurfaceBridge.Proofs.Text.Trimming
import SurfaceBridge.Server.Settings

set_option autoImplicit false

/-! # Ports as texts

A text gives a port if it is a decimal numeral of the port, perhaps with a plus sign and zeros in
front of its digits, and with nothing but blanks around it (`WritesPort`). A port is read from these
texts and from no others (`parsePort_eq_some_iff`), because a list of digits is the shortest numeral
of its value behind some zeros (`exists_zeros`).
-/

namespace SurfaceBridge

namespace Server

open Text (Blanks IsTrimmed isBlank trim)

/-! ## Digits -/

theorem toNat_of_isDigit {c : Char} (digit : c.isDigit = true) : 48 ≤ c.toNat ∧ c.toNat ≤ 57 :=
  Char.isDigit_iff_toNat.1 digit

theorem digitChar_of_isDigit {c : Char} (digit : c.isDigit = true) :
    c.toNat - 48 < 10 ∧ Nat.digitChar (c.toNat - 48) = c := by
  obtain ⟨hle, hge⟩ := toNat_of_isDigit digit
  have hlt : c.toNat - 48 < 10 := by omega
  refine ⟨hlt, Char.toNat_inj.1 ?_⟩
  rw [Nat.toNat_digitChar_of_lt_ten hlt]
  omega

/-- Digits behind the numeral of a number that is not zero make a longer numeral. -/
theorem toDigits_append {n : Nat} (pos : 0 < n) {ds : List Char}
    (digits : ∀ c ∈ ds, c.isDigit = true) :
    Nat.toDigits 10 n ++ ds = Nat.toDigits 10 (Nat.ofDigitChars 10 ds n) := by
  induction ds generalizing n with
  | nil => rw [List.append_nil, Nat.ofDigitChars_nil]
  | cons c ds ih =>
      obtain ⟨hlt, hchar⟩ := digitChar_of_isDigit (digits c List.mem_cons_self)
      have hone : Nat.toDigits 10 n ++ [c] = Nat.toDigits 10 (10 * n + (c.toNat - 48)) := by
        rw [← Nat.toDigits_append_toDigits (by omega) pos hlt, Nat.toDigits_of_lt_base hlt, hchar]
      calc Nat.toDigits 10 n ++ c :: ds
          = Nat.toDigits 10 n ++ [c] ++ ds := (List.append_assoc _ [c] ds).symm
        _ = Nat.toDigits 10 (10 * n + (c.toNat - 48)) ++ ds := by rw [hone]
        _ = Nat.toDigits 10 (Nat.ofDigitChars 10 ds (10 * n + (c.toNat - 48))) :=
          ih (by omega) fun d hd => digits d (List.mem_cons_of_mem c hd)
        _ = Nat.toDigits 10 (Nat.ofDigitChars 10 (c :: ds) n) := by rw [Nat.ofDigitChars_cons]; rfl

/-- Digits are the numeral of their value behind some zeros. -/
theorem exists_zeros {ds : List Char} (nonempty : ds ≠ []) (digits : ∀ c ∈ ds, c.isDigit = true) :
    ∃ k, ds = List.replicate k '0' ++ Nat.toDigits 10 (Nat.ofDigitChars 10 ds 0) := by
  induction ds with
  | nil => exact absurd rfl nonempty
  | cons c ds ih =>
      obtain ⟨hlt, hchar⟩ := digitChar_of_isDigit (digits c List.mem_cons_self)
      have hrest : ∀ d ∈ ds, d.isDigit = true := fun d hd => digits d (List.mem_cons_of_mem c hd)
      have hvalue : Nat.ofDigitChars 10 (c :: ds) 0 = Nat.ofDigitChars 10 ds (c.toNat - 48) := by
        rw [Nat.ofDigitChars_cons, Nat.mul_zero, Nat.zero_add]
        rfl
      rw [hvalue]
      -- a zero in front is one more, and any other digit is the first one of the numeral
      by_cases hzero : c.toNat - 48 = 0
      · have hc : c = '0' := by
          rw [← hchar, hzero]
          rfl
        subst hc
        by_cases hds : ds = []
        · subst hds
          exact ⟨0, rfl⟩
        · obtain ⟨k, hk⟩ := ih hds hrest
          refine ⟨k + 1, ?_⟩
          rw [List.replicate_succ, List.cons_append]
          exact congrArg ('0' :: ·) hk
      · refine ⟨0, ?_⟩
        rw [← toDigits_append (by omega) hrest, Nat.toDigits_of_lt_base hlt, hchar]
        rfl

/-- Digits are read if there are any, and if there is nothing but digits. -/
theorem decimal?_eq_some {ds : List Char} {n : Nat} :
    decimal? ds = some n
      ↔ ds ≠ [] ∧ (∀ c ∈ ds, c.isDigit = true) ∧ Nat.ofDigitChars 10 ds 0 = n := by
  have hvalue : ds.foldl (fun (n : Nat) (c : Char) => 10 * n + (c.toNat - 48)) 0
      = Nat.ofDigitChars 10 ds 0 := Nat.ofDigitChars_eq_foldl.symm
  have hdigits : ¬(ds.isEmpty || !ds.all Char.isDigit) = true
      ↔ ds ≠ [] ∧ ∀ c ∈ ds, c.isDigit = true := by
    rw [Bool.or_eq_true, not_or, List.isEmpty_iff, Bool.not_eq_true', Bool.not_eq_false,
      List.all_eq_true]
  unfold decimal?
  rw [hvalue, ← and_assoc, ← hdigits]
  split <;> simp_all

/-- A number is written by its numeral and by this numeral behind zeros. -/
theorem decimal?_eq_some_iff {ds : List Char} {n : Nat} :
    decimal? ds = some n ↔ ∃ k, ds = List.replicate k '0' ++ Nat.toDigits 10 n := by
  rw [decimal?_eq_some]
  constructor
  · rintro ⟨nonempty, digits, rfl⟩
    exact exists_zeros nonempty digits
  · rintro ⟨k, rfl⟩
    refine ⟨fun h => Nat.toDigits_ne_nil (List.append_eq_nil_iff.1 h).2, fun c hc => ?_, ?_⟩
    · rcases List.mem_append.1 hc with hc | hc
      · rw [(List.mem_replicate.1 hc).2]
        rfl
      · exact Nat.isDigit_of_mem_toDigits (by omega) (by omega) hc
    · rw [Nat.ofDigitChars_append, Nat.ofDigitChars_replicate_zero, Nat.mul_zero,
        Nat.ofDigitChars_ten_toDigits]

/-! ## Ports -/

/-- A text that gives a port. -/
def WritesPort (port : UInt16) (text : List Char) : Prop :=
  ∃ before sign zeros behind, Blanks before ∧ (sign = [] ∨ sign = ['+']) ∧ Blanks behind
    ∧ text = before ++ (sign ++ (List.replicate zeros '0' ++ Nat.toDigits 10 port.toNat)) ++ behind

/-- A text without a plus sign at its start. -/
def unsigned (s : List Char) : List Char :=
  match s with
  | '+' :: rest => rest
  | rest => rest

theorem exists_unsigned (s : List Char) :
    ∃ sign, (sign = [] ∨ sign = ['+']) ∧ s = sign ++ unsigned s := by
  unfold unsigned
  split
  · exact ⟨['+'], Or.inr rfl, rfl⟩
  · exact ⟨[], Or.inl rfl, rfl⟩

theorem unsigned_append {sign ds : List Char} (signed : sign = [] ∨ sign = ['+'])
    (digits : ∀ c ∈ ds, c.isDigit = true) : unsigned (sign ++ ds) = ds := by
  rcases signed with rfl | rfl
  · rw [List.nil_append]
    unfold unsigned
    split
    next rest =>
      have hplus : '+'.isDigit = true := digits '+' List.mem_cons_self
      cases hplus
    · rfl
  · rfl

theorem isBlank_of_isDigit {c : Char} (digit : c.isDigit = true) : isBlank c = false := by
  obtain ⟨hle, hge⟩ := toNat_of_isDigit digit
  simp only [isBlank, Bool.or_eq_false_iff, Bool.and_eq_false_iff, decide_eq_false_iff_not]
  omega

theorem parsePort_eq (text : String) :
    parsePort text = match decimal? (unsigned (trim text.toList)) with
      | some n => if n < UInt16.size then some (UInt16.ofNat n) else none
      | none => none := rfl

/-- The texts from which a port is read. -/
theorem parsePort_eq_some_iff {text : String} {port : UInt16} :
    parsePort text = some port ↔ WritesPort port text.toList := by
  rw [parsePort_eq]
  constructor
  · intro h
    obtain ⟨sign, hsign, hbody⟩ := exists_unsigned (trim text.toList)
    obtain ⟨before, behind, hbefore, hbehind, htext⟩ := Text.exists_trim text.toList
    cases hn : decimal? (unsigned (trim text.toList)) with
    | none =>
        rw [hn] at h
        cases h
    | some n =>
        rw [hn] at h
        obtain ⟨hlt, hsome⟩ := Option.ite_none_right_eq_some.1 h
        cases hsome
        obtain ⟨zeros, hzeros⟩ := decimal?_eq_some_iff.1 hn
        have hport : (UInt16.ofNat n).toNat = n := UInt16.toNat_ofNat_of_lt' hlt
        refine ⟨before, sign, zeros, behind, hbefore, hsign, hbehind, ?_⟩
        rw [hport, ← hzeros, ← hbody]
        exact htext
  · rintro ⟨before, sign, zeros, behind, hbefore, hsign, hbehind, htext⟩
    have hread : decimal? (List.replicate zeros '0' ++ Nat.toDigits 10 port.toNat)
        = some port.toNat := decimal?_eq_some_iff.2 ⟨zeros, rfl⟩
    generalize List.replicate zeros '0' ++ Nat.toDigits 10 port.toNat = ds at htext hread
    have hdigits : ∀ c ∈ ds, c.isDigit = true := (decimal?_eq_some.1 hread).2.1
    have hword : ∀ c ∈ sign ++ ds, isBlank c = false := by
      intro c hc
      rcases List.mem_append.1 hc with hc | hc
      · rcases hsign with rfl | rfl
        · cases hc
        · rw [List.mem_singleton.1 hc]
          rfl
      · exact isBlank_of_isDigit (hdigits c hc)
    rw [htext, Text.trim_append hbefore (Text.isTrimmed_of_word hword) hbehind,
      unsigned_append hsign hdigits, hread]
    show (if port.toNat < UInt16.size then some (UInt16.ofNat port.toNat) else none) = some port
    rw [if_pos port.toNat_lt, UInt16.ofNat_toNat]

end Server

end SurfaceBridge
