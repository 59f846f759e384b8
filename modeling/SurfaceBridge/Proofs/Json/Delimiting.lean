import SurfaceBridge.Proofs.Json.Grammar

set_option autoImplicit false

/-! # What stands behind a number

A number does not say where it ends. `Stops` is the condition on what stands behind it under which
no more is read: it starts with no digit, no point and no exponent. Blanks are among what can stand
there.

`readNumber_append` says that a text that is read as a number, with nothing left, is read as the
same number in front of whatever stops it. It is proved reader by reader along the way a number is
read; a reader that has this property is `Undisturbed`.
-/

namespace SurfaceBridge

namespace Json

/-- A text that does not go on with a number. -/
def Stops (rest : List Char) : Prop :=
  ∀ c ∈ rest.head?, c.isDigit = false ∧ c ≠ '.' ∧ c ≠ 'e' ∧ c ≠ 'E'

/-- A reader that reads the same number from a text when the given text stands behind it. -/
def Undisturbed (rest : List Char) (reader : List Char → Reading Number) : Prop :=
  ∀ ⦃s r : List Char⦄ ⦃n : Number⦄, reader s = .ok (n, r) → reader (s ++ rest) = .ok (n, r ++ rest)

section

variable {rest : List Char}

theorem Stops.skipDigits (stops : Stops rest) (s : List Char) :
    Json.skipDigits (s ++ rest) = ((Json.skipDigits s).1, (Json.skipDigits s).2 ++ rest) := by
  induction s with
  | nil =>
      cases rest with
      | nil => rfl
      | cons c cs => simp [Json.skipDigits, (stops c rfl).1]
  | cons c cs ih =>
      unfold Json.skipDigits at ih ⊢
      simp only [Prod.mk.injEq] at ih
      rw [List.cons_append, List.takeWhile_cons, List.takeWhile_cons, List.dropWhile_cons,
        List.dropWhile_cons]
      split
      · rw [List.length_cons, List.length_cons, ih.1, ih.2]
      · rfl

theorem Stops.readDigits (stops : Stops rest) (s : List Char) (value count : Nat) :
    Json.readDigits (s ++ rest) value count
      = ((Json.readDigits s value count).1, (Json.readDigits s value count).2.1,
        (Json.readDigits s value count).2.2 ++ rest) := by
  fun_induction Json.readDigits s value count with
  | case1 value count =>
      cases rest with
      | nil => rfl
      | cons c cs => simp [Json.readDigits, (stops c rfl).1]
  | case2 value count c cs more ih => rw [List.cons_append, Json.readDigits, if_pos more, ih]
  | case3 value count c cs last => rw [List.cons_append, Json.readDigits, if_neg last]

theorem Stops.readExponentDigits (stops : Stops rest) (s : List Char) (value : Nat) :
    Json.readExponentDigits (s ++ rest) value
      = ((Json.readExponentDigits s value).1, (Json.readExponentDigits s value).2 ++ rest) := by
  fun_induction Json.readExponentDigits s value with
  | case1 value =>
      cases rest with
      | nil => rfl
      | cons c cs => simp [Json.readExponentDigits, (stops c rfl).1]
  | case2 value c cs digit fits ih =>
      rw [List.cons_append, Json.readExponentDigits, if_pos digit, if_pos fits, ih]
  | case3 value c cs digit tooLarge =>
      rw [List.cons_append, Json.readExponentDigits, if_pos digit, if_neg tooLarge]
  | case4 value c cs last => rw [List.cons_append, Json.readExponentDigits, if_neg last]

theorem undisturbed_finishReal (positive : Bool) (significand : Nat) (exponent : Int) :
    Undisturbed rest (finishReal positive significand exponent) := by
  intro s r n h
  unfold finishReal at h ⊢
  split at h
  · cases h
    rfl
  · cases h

/-- Reads the digits of an exponent behind its sign. -/
def readPower (positive : Bool) (significand : Nat) (start : Int) (up : Bool) (s : List Char) :
    Reading Number :=
  match s with
  | [] => stop .endInValue []
  | c :: cs =>
    if c.isDigit then
      match readExponentDigits cs (digit c) with
      | (some e, rest) =>
        let exponent := if up then start + (e : Int) else start - (e : Int)
        finishReal positive significand (clampExponent exponent) rest
      | (none, rest) =>
        if significand ≠ 0 && up then stop .numberOutOfRange rest
        else .ok (.real (if positive then 0.0 else -0.0), (skipDigits rest).2)
    else stop .invalidNumber cs

/-- The sign of an exponent, with what stands behind it. -/
def exponentSign (s : List Char) : Bool × List Char :=
  match s with
  | '+' :: cs => (true, cs)
  | '-' :: cs => (false, cs)
  | cs => (true, cs)

theorem exponentSign_append {s : List Char} (notNil : s ≠ []) (rest : List Char) :
    exponentSign (s ++ rest) = ((exponentSign s).1, (exponentSign s).2 ++ rest) := by
  obtain ⟨c, cs, rfl⟩ := List.exists_cons_of_ne_nil notNil
  by_cases hplus : c = '+'
  · subst hplus
    rfl
  · by_cases hminus : c = '-'
    · subst hminus
      rfl
    · simp [exponentSign, hplus, hminus]

theorem readExponent_eq (positive : Bool) (significand : Nat) (start : Int) (s : List Char) :
    readExponent positive significand start s
      = readPower positive significand start (exponentSign s).1 (exponentSign s).2 := rfl

theorem undisturbed_readPower (stops : Stops rest) (positive : Bool) (significand : Nat)
    (start : Int) (up : Bool) : Undisturbed rest (readPower positive significand start up) := by
  intro s r n h
  cases s with
  | nil => cases h
  | cons c cs =>
      rw [List.cons_append]
      unfold readPower at h ⊢
      dsimp only at h ⊢
      split at h
      · rename_i isDigit
        rw [if_pos isDigit, stops.readExponentDigits]
        cases hread : Json.readExponentDigits cs (digit c) with
        | mk e after =>
            rw [hread] at h
            cases e with
            | some e => exact undisturbed_finishReal _ _ _ h
            | none =>
                dsimp only at h ⊢
                split at h
                · cases h
                · rename_i small
                  cases h
                  rw [if_neg small, stops.skipDigits]
      · cases h

theorem undisturbed_readExponent (stops : Stops rest) (positive : Bool) (significand : Nat)
    (start : Int) : Undisturbed rest (readExponent positive significand start) := by
  intro s r n h
  have hne : s ≠ [] := by
    rintro rfl
    cases h
  rw [readExponent_eq] at h
  rw [readExponent_eq, exponentSign_append hne]
  exact undisturbed_readPower stops _ _ _ _ h

/-- What is true of the first character of two texts is true of that of both together. -/
theorem forall_head_append {p : Char → Prop} {s : List Char} (first : ∀ c ∈ s.head?, p c)
    (second : ∀ c ∈ rest.head?, p c) : ∀ c ∈ (s ++ rest).head?, p c := by
  cases s with
  | nil => exact second
  | cons c cs => exact first

theorem readTail_eq {s : List Char} (noLetter : ∀ c ∈ s.head?, c ≠ 'e' ∧ c ≠ 'E')
    (positive : Bool) (significand : Nat) (exponent : Int) :
    readTail positive significand exponent s = finishReal positive significand exponent s := by
  cases s with
  | nil => rfl
  | cons c cs => simp [readTail, noLetter c rfl]

theorem undisturbed_readTail (stops : Stops rest) (positive : Bool) (significand : Nat)
    (exponent : Int) : Undisturbed rest (readTail positive significand exponent) := by
  intro s r n h
  by_cases noLetter : ∀ c ∈ s.head?, c ≠ 'e' ∧ c ≠ 'E'
  · rw [readTail_eq noLetter] at h
    rw [readTail_eq (forall_head_append noLetter fun c hc => (stops c hc).2.2)]
    exact undisturbed_finishReal _ _ _ h
  · cases s with
    | nil => exact absurd (by simp) noLetter
    | cons c cs =>
        have hread : ∀ s, readTail positive significand exponent (c :: s)
            = readExponent positive significand exponent s := by
          intro s
          have hletter : c = 'e' ∨ c = 'E' := by
            by_contra hne
            exact noLetter (by simpa using hne)
          rcases hletter with rfl | rfl <;> rfl
        rw [hread] at h
        rw [List.cons_append, hread]
        exact undisturbed_readExponent stops _ _ _ h

theorem undisturbed_readFraction (stops : Stops rest) (positive : Bool) (significand : Nat)
    (start : Int) : Undisturbed rest (readFraction positive significand start) := by
  intro s r n h
  have htail := undisturbed_readTail stops positive
  unfold readFraction at h ⊢
  rw [stops.readDigits]
  cases hread : Json.readDigits s significand 0 with
  | mk value more =>
      obtain ⟨count, after⟩ := more
      rw [hread] at h
      dsimp only at h ⊢
      cases after with
      | nil =>
          dsimp only at h
          split at h
          · cases h
          · rename_i digits
            have hgoal := htail _ _ h
            rw [List.nil_append] at hgoal ⊢
            cases rest with
            | nil =>
                dsimp only
                rw [if_neg digits]
                exact hgoal
            | cons c cs =>
                dsimp only
                rw [(stops c rfl).1, if_neg (by decide), if_neg digits]
                exact hgoal
      | cons c cs =>
          rw [List.cons_append]
          dsimp only at h ⊢
          split at h
          · rename_i isDigit
            rw [if_pos isDigit, ← List.cons_append, stops.skipDigits]
            exact htail _ _ h
          · rename_i last
            rw [if_neg last]
            split at h
            · cases h
            · rename_i digits
              rw [if_neg digits]
              exact htail _ _ h

theorem readAfterWhole_eq {s : List Char} (noMore : ∀ c ∈ s.head?, c ≠ '.' ∧ c ≠ 'e' ∧ c ≠ 'E')
    (positive : Bool) (significand : Nat) :
    readAfterWhole positive significand s
      = if positive then .ok (.integer significand, s)
        else if significand = 0 ∨ 9223372036854775808 < significand then
          .ok (.real (-(UInt64.ofNat significand).toFloat), s)
        else .ok (.integer (-(significand : Int)), s) := by
  cases s with
  | nil => rfl
  | cons c cs => simp [readAfterWhole, noMore c rfl]

theorem undisturbed_readAfterWhole (stops : Stops rest) (positive : Bool) (significand : Nat) :
    Undisturbed rest (readAfterWhole positive significand) := by
  intro s r n h
  -- the number ends in front of `s`, and so it does in front of `rest`, or `s` goes on with it
  by_cases noMore : ∀ c ∈ s.head?, c ≠ '.' ∧ c ≠ 'e' ∧ c ≠ 'E'
  · rw [readAfterWhole_eq noMore] at h
    rw [readAfterWhole_eq (forall_head_append noMore fun c hc => (stops c hc).2)]
    split at h
    · rename_i plus
      cases h
      rw [if_pos plus]
    · rename_i minus
      rw [if_neg minus]
      split at h
      · rename_i large
        cases h
        rw [if_pos large]
      · rename_i fits
        cases h
        rw [if_neg fits]
  · cases s with
    | nil => exact absurd (by simp) noMore
    | cons c cs =>
        have hmore : c = '.' ∨ c = 'e' ∨ c = 'E' := by
          by_contra hne
          exact noMore (by simpa using hne)
        rcases hmore with rfl | rfl | rfl
        · exact undisturbed_readFraction stops _ _ _ h
        · exact undisturbed_readExponent stops _ _ _ h
        · exact undisturbed_readExponent stops _ _ _ h

/-- Reads what follows the digits that were dropped. -/
def readSurplus (positive : Bool) (value dropped : Nat) (s : List Char) : Reading Number :=
  match s with
  | '.' :: more => readFraction positive value dropped more
  | s => readTail positive value dropped s

theorem readSurplus_eq {s : List Char} (noPoint : ∀ c ∈ s.head?, c ≠ '.') (positive : Bool)
    (value dropped : Nat) :
    readSurplus positive value dropped s = readTail positive value dropped s := by
  cases s with
  | nil => rfl
  | cons c cs => simp [readSurplus, noPoint c rfl]

theorem undisturbed_readSurplus (stops : Stops rest) (positive : Bool) (value dropped : Nat) :
    Undisturbed rest (readSurplus positive value dropped) := by
  intro s r n h
  by_cases noPoint : ∀ c ∈ s.head?, c ≠ '.'
  · rw [readSurplus_eq noPoint] at h
    rw [readSurplus_eq (forall_head_append noPoint fun c hc => (stops c hc).2.1)]
    exact undisturbed_readTail stops _ _ _ h
  · cases s with
    | nil => exact absurd (by simp) noPoint
    | cons c cs =>
        have hpoint : c = '.' := by simpa using noPoint
        subst hpoint
        exact undisturbed_readFraction stops _ _ _ h

/-- Reads what follows the digits that fit 64 bits: more digits, or the rest of the number. -/
def readBehind (positive : Bool) (value : Nat) (s : List Char) : Reading Number :=
  match s with
  | d :: _ =>
    if d.isDigit then readSurplus positive value (skipDigits s).1 (skipDigits s).2
    else readAfterWhole positive value s
  | [] => readAfterWhole positive value []

theorem readUnsigned_zero {s : List Char} (noDigit : ∀ c ∈ s.head?, c.isDigit = false)
    (positive : Bool) : readUnsigned positive ('0' :: s) = readAfterWhole positive 0 s := by
  cases s with
  | nil => rfl
  | cons c cs => simp [readUnsigned, noDigit c rfl]

theorem readUnsigned_digit {c : Char} (isDigit : c.isDigit = true) (notZero : c ≠ '0')
    (positive : Bool) (s : List Char) :
    readUnsigned positive (c :: s)
      = readBehind positive (readDigits s (digit c) 0).1 (readDigits s (digit c) 0).2.2 := by
  simp only [readUnsigned, isDigit, if_true]
  rfl

theorem readBehind_eq {s : List Char} (noDigit : ∀ c ∈ s.head?, c.isDigit = false)
    (positive : Bool) (value : Nat) :
    readBehind positive value s = readAfterWhole positive value s := by
  cases s with
  | nil => rfl
  | cons c cs => simp [readBehind, noDigit c rfl]

theorem undisturbed_readBehind (stops : Stops rest) (positive : Bool) (value : Nat) :
    Undisturbed rest (readBehind positive value) := by
  intro s r n h
  by_cases noDigit : ∀ c ∈ s.head?, c.isDigit = false
  · rw [readBehind_eq noDigit] at h
    rw [readBehind_eq (forall_head_append noDigit fun c hc => (stops c hc).1)]
    exact undisturbed_readAfterWhole stops _ _ h
  · cases s with
    | nil => exact absurd (by simp) noDigit
    | cons c cs =>
        have isDigit : c.isDigit = true := by simpa using noDigit
        rw [List.cons_append]
        unfold readBehind at h ⊢
        dsimp only at h ⊢
        rw [if_pos isDigit] at h ⊢
        rw [← List.cons_append, stops.skipDigits]
        cases hskip : Json.skipDigits (c :: cs) with
        | mk dropped after =>
            rw [hskip] at h
            exact undisturbed_readSurplus stops positive value dropped h

theorem undisturbed_readUnsigned (stops : Stops rest) (positive : Bool) :
    Undisturbed rest (readUnsigned positive) := by
  intro s r n h
  cases s with
  | nil => cases h
  | cons c cs =>
      rw [List.cons_append]
      by_cases zero : c = '0'
      · subst zero
        have noDigit : ∀ c ∈ cs.head?, c.isDigit = false := by
          intro d hd
          cases cs with
          | nil => cases hd
          | cons d' ds =>
              cases hd
              by_contra isDigit
              simp [readUnsigned, Bool.eq_true_of_not_eq_false isDigit, stopAt] at h
        rw [readUnsigned_zero noDigit] at h
        rw [readUnsigned_zero (forall_head_append noDigit fun c hc => (stops c hc).1)]
        exact undisturbed_readAfterWhole stops _ _ h
      · by_cases isDigit : c.isDigit = true
        · rw [readUnsigned_digit isDigit zero] at h
          rw [readUnsigned_digit isDigit zero, stops.readDigits]
          exact undisturbed_readBehind stops _ _ h
        · simp [readUnsigned, isDigit, stop] at h

/-- A number that a text holds and nothing else is read from it whatever stands behind it, unless
that goes on with the number. -/
theorem readNumber_append {s : List Char} {n : Number} (h : readNumber s = .ok (n, []))
    (stops : Stops rest) : readNumber (s ++ rest) = .ok (n, rest) := by
  cases s with
  | nil => cases h
  | cons c cs =>
      by_cases minus : c = '-'
      · subst minus
        exact undisturbed_readUnsigned stops false h
      · have hread : ∀ s, readNumber (c :: s) = readUnsigned true (c :: s) := by
          intro s
          simp [readNumber, minus]
        rw [hread] at h
        rw [List.cons_append, hread]
        exact undisturbed_readUnsigned stops true h

end

end Json

end SurfaceBridge
