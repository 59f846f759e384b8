import SurfaceBridge.Proofs.Json.Grammar

set_option autoImplicit false

/-! # Texts that are accepted

What the readers accept is of the grammar. Each lemma says of one reader that, if it gives a value,
it has read something from the front of the text that the grammar allows there, and that stands for
the value. With `gives_readMembers` of the grammar this settles which objects a reader of members
accepts.
-/

namespace SurfaceBridge

namespace Json

variable {s rest : List Char}

/-! ## Texts -/

/-- Four digits are those of a code unit. -/
theorem exists_of_readHex {n : Nat} (h : readHex s = .ok (n, rest)) :
    ∃ digits, s = digits ++ rest ∧ PieceText (.unit n) ('\\' :: 'u' :: digits) := by
  unfold readHex at h
  split at h
  · rename_i a b c d more
    split at h
    · rename_i i j k l first second third fourth
      cases h
      exact ⟨[a, b, c, d], rfl, .unit first second third fourth⟩
    · cases h
  · cases h

theorem exists_of_readLowSurrogate {high : Nat} {c : Char}
    (h : readLowSurrogate high s = .ok (c, rest)) :
    ∃ m t, s = t ++ rest ∧ PieceText (.unit m) t ∧ IsLow m ∧ c = paired high m := by
  unfold readLowSurrogate at h
  split at h
  · cases h
  · cases h
  · rename_i more
    cases hx : readHex more with
    | error e =>
        rw [hx] at h
        cases h
    | ok p =>
        obtain ⟨m, after⟩ := p
        obtain ⟨digits, rfl, hunit⟩ := exists_of_readHex hx
        rw [hx] at h
        dsimp only at h
        split at h
        · rename_i low
          obtain ⟨hc, hrest⟩ := Prod.mk.inj (Except.ok.inj h)
          exact ⟨m, '\\' :: 'u' :: digits, by rw [hrest]; rfl, hunit, low, hc.symm⟩
        · cases h
  · cases h
  · cases h

/-- An escape of a code unit is that of a whole character, or a pair of them. -/
theorem exists_of_readEscape_unit {c : Char} (h : readEscape ('u' :: s) = .ok (c, rest)) :
    ∃ ps t, s = t ++ rest ∧ BodyText ps ('\\' :: 'u' :: t)
      ∧ ∀ qs, charsOf (ps ++ qs) = (charsOf qs).map (c :: ·) := by
  cases hx : readHex s with
  | error e => simp [readEscape, hx] at h
  | ok p =>
      obtain ⟨n, after⟩ := p
      obtain ⟨digits, rfl, hunit⟩ := exists_of_readHex hx
      simp only [readEscape, Char.reduceEq, or_self, if_true, if_false, hx] at h
      split at h
      · cases h
      rename_i notLow
      split at h
      · rename_i high
        obtain ⟨m, t, rfl, hsecond, low, hc⟩ := exists_of_readLowSurrogate h
        refine ⟨[.unit n, .unit m], digits ++ t, by simp, ?_, fun qs => ?_⟩
        · have hbody := BodyText.cons hunit (.cons hsecond .nil)
          simpa using hbody
        · rw [hc]
          exact charsOf_pair notLow high low qs
      · rename_i notHigh
        obtain ⟨hc, hrest⟩ := Prod.mk.inj (Except.ok.inj h)
        refine ⟨[.unit n], digits, by rw [hrest], ?_, fun qs => ?_⟩
        · have hbody := BodyText.cons hunit .nil
          simpa using hbody
        · rw [← hc]
          exact charsOf_unit notLow notHigh qs

/-- An escape is one piece, or a pair of code units, and it stands for its character whatever
follows. -/
theorem exists_of_readEscape {c : Char} (h : readEscape s = .ok (c, rest)) :
    ∃ ps t, s = t ++ rest ∧ BodyText ps ('\\' :: t)
      ∧ ∀ qs, charsOf (ps ++ qs) = (charsOf qs).map (c :: ·) := by
  cases s with
  | nil => cases h
  | cons letter more =>
      by_cases hu : letter = 'u'
      · subst hu
        obtain ⟨ps, t, rfl, hbody, hchars⟩ := exists_of_readEscape_unit h
        exact ⟨ps, 'u' :: t, rfl, hbody, hchars⟩
      · have hlisted : more = rest ∧ (letter, c) ∈ shortEscapes := by
          have hreturn : ∀ {d : Char}, (letter, d) ∈ shortEscapes →
              (Except.ok (d, more) : Reading Char) = .ok (c, rest) →
              more = rest ∧ (letter, c) ∈ shortEscapes := by
            intro d listed he
            obtain ⟨hd, hrest⟩ := Prod.mk.inj (Except.ok.inj he)
            exact ⟨hrest, hd ▸ listed⟩
          simp only [readEscape, hu, if_false] at h
          split at h
          · rename_i itself
            refine hreturn ?_ h
            rcases itself with rfl | rfl | rfl <;> simp [shortEscapes]
          split at h
          · rename_i hl
            exact hreturn (by simp [hl, shortEscapes]) h
          split at h
          · rename_i hl
            exact hreturn (by simp [hl, shortEscapes]) h
          split at h
          · rename_i hl
            exact hreturn (by simp [hl, shortEscapes]) h
          split at h
          · rename_i hl
            exact hreturn (by simp [hl, shortEscapes]) h
          split at h
          · rename_i hl
            exact hreturn (by simp [hl, shortEscapes]) h
          · cases h
        obtain ⟨rfl, listed⟩ := hlisted
        exact ⟨[.char c], [letter], rfl, .cons (.short listed) .nil, fun _ => rfl⟩

/-- The characters that are read stand in the pieces in front of the closing quote. -/
theorem exists_of_readChars {fuel : Nat} {acc cs : List Char}
    (h : readChars fuel acc s = .ok (cs, rest)) :
    ∃ ps body ds, s = body ++ '"' :: rest ∧ BodyText ps body ∧ charsOf ps = some ds
      ∧ cs = acc.reverse ++ ds := by
  induction fuel generalizing s acc with
  | zero => cases h
  | succ fuel ih =>
      cases s with
      | nil => cases h
      | cons c more =>
          by_cases hquote : c = '"'
          · simp only [readChars, hquote, if_true] at h
            cases h
            exact ⟨[], [], [], by rw [hquote]; rfl, .nil, rfl, by simp⟩
          · by_cases hbackslash : c = '\\'
            · subst hbackslash
              simp only [readChars, hquote, if_true, if_false] at h
              cases he : readEscape more with
              | error e =>
                  rw [he] at h
                  cases h
              | ok p =>
                  obtain ⟨d, after⟩ := p
                  rw [he] at h
                  obtain ⟨ps, t, rfl, hpiece, hchars⟩ := exists_of_readEscape he
                  obtain ⟨qs, body, ds, rfl, hbody, hds, rfl⟩ := ih h
                  refine ⟨ps ++ qs, '\\' :: t ++ body, d :: ds, by simp, hpiece.append hbody, ?_,
                    by simp⟩
                  rw [hchars, hds]
                  rfl
            · simp only [readChars, hquote, hbackslash, if_false] at h
              split at h
              · cases h
              · rename_i noControl
                obtain ⟨qs, body, ds, rfl, hbody, hds, rfl⟩ := ih h
                have hplain := PieceText.plain hquote hbackslash (Nat.not_lt.1 noControl)
                refine ⟨.char c :: qs, c :: body, c :: ds, rfl, .cons hplain hbody, ?_, by simp⟩
                rw [charsOf, hds]
                rfl

theorem exists_of_readText {t : String} (h : readText s = .ok (t, rest)) :
    ∃ ps body, s = body ++ '"' :: rest ∧ BodyText ps body ∧ textOf ps = some t := by
  unfold readText at h
  cases hr : readChars (s.length + 1) [] s with
  | error e =>
      rw [hr] at h
      cases h
  | ok p =>
      obtain ⟨cs, after⟩ := p
      rw [hr] at h
      cases h
      obtain ⟨ps, body, ds, hs, hbody, hds, hcs⟩ := exists_of_readChars hr
      refine ⟨ps, body, hs, hbody, ?_⟩
      rw [textOf, hds, hcs]
      rfl

/-! ## Members -/

theorem exists_of_skipSpace {c : Char} (h : skipSpace s = c :: rest) :
    ∃ blanks, Blanks blanks ∧ s = blanks ++ c :: rest := by
  refine ⟨s.takeWhile isSpace, fun d hd => List.mem_takeWhile_imp hd, ?_⟩
  rw [← h]
  exact List.takeWhile_append_dropWhile.symm

theorem blanks_of_skipSpace (h : skipSpace s = []) : Blanks s :=
  List.dropWhile_eq_nil_iff.1 h

theorem exists_of_readColon (h : readColon s = .ok rest) :
    ∃ blanks, Blanks blanks ∧ s = blanks ++ ':' :: rest := by
  unfold readColon at h
  split at h
  · rename_i more hskip
    cases h
    exact exists_of_skipSpace hskip
  · cases h
  · cases h

/-- The decoder of texts gives what a text stands for. -/
theorem exists_of_decodedText {depth : Nat} {t : String}
    (h : Decoder.text.fromText depth s = .ok (t, rest)) :
    ∃ blanks ps written, Blanks blanks ∧ s = blanks ++ (written ++ rest)
      ∧ ValueText (some ps) written ∧ textOf ps = some t := by
  simp only [Decoder.text, atValue] at h
  split at h
  · cases h
  · rename_i c more hskip
    obtain ⟨blanks, hblanks, rfl⟩ := exists_of_skipSpace hskip
    by_cases hquote : c = '"'
    · rw [if_pos hquote] at h
      obtain ⟨ps, body, rfl, hbody, htext⟩ := exists_of_readText h
      exact ⟨blanks, ps, '"' :: (body ++ ['"']), hblanks, by simp [hquote], .text hbody, htext⟩
    · obtain ⟨e, he⟩ := exists_refuseKind (α := String × List Char) "a string" (c :: more)
      rw [if_neg hquote, he] at h
      cases h

/-- A member comes behind blanks and, if it is not the first one, behind a comma. -/
theorem exists_of_nextMember {first : Bool} (h : nextMember first s = .ok (true, rest)) :
    ∃ before behind, Blanks before ∧ Blanks behind
      ∧ s = before ++ (lead first ++ (behind ++ '"' :: rest)) := by
  unfold nextMember at h
  split at h
  · cases h
  · rename_i c more hskip
    obtain ⟨before, hbefore, rfl⟩ := exists_of_skipSpace hskip
    split at h
    · cases h
    · split at h
      · rename_i comma
        split at h
        · cases h
        · rename_i more' hskip'
          cases h
          obtain ⟨behind, hbehind, rfl⟩ := exists_of_skipSpace hskip'
          exact ⟨before, behind, hbefore, hbehind, by rw [comma.1, comma.2]; rfl⟩
        · split at h <;> cases h
      · split at h
        · rename_i isFirst
          split at h
          · rename_i quote
            cases h
            exact ⟨before, [], hbefore, blanks_nil, by rw [quote, isFirst]; rfl⟩
          · cases h
        · cases h

theorem exists_of_nextMember_end {first : Bool} (h : nextMember first s = .ok (false, rest)) :
    ∃ blanks more, Blanks blanks ∧ rest = '}' :: more ∧ s = blanks ++ '}' :: more := by
  unfold nextMember at h
  split at h
  · cases h
  · rename_i c more hskip
    obtain ⟨blanks, hblanks, rfl⟩ := exists_of_skipSpace hskip
    split at h
    · rename_i brace
      cases h
      exact ⟨blanks, more, hblanks, by rw [brace], by rw [brace]⟩
    · split at h
      · split at h
        · cases h
        · cases h
        · split at h <;> cases h
      · split at h
        · split at h <;> cases h
        · cases h

/-- The members that are read stand in front of the closing brace. -/
theorem exists_of_readMembers {σ : Type} {member : σ → List Char → Reading σ}
    {take : σ → Member → Option σ}
    (each : ∀ state after s rest, member state s = .ok (after, rest) →
      ∃ m t, s = t ++ rest ∧ MemberText m ('"' :: t) ∧ take state m = some after)
    {fuel : Nat} {first : Bool} {state after : σ}
    (h : readMembers member fuel first state s = .ok (after, rest)) :
    ∃ ms t more, s = t ++ '}' :: more ∧ rest = '}' :: more ∧ MembersText first ms t
      ∧ ms.foldlM take state = some after := by
  induction fuel generalizing first state s with
  | zero => cases h
  | succ fuel ih =>
      rw [readMembers] at h
      split at h
      · cases h
      · rename_i left hnext
        cases h
        obtain ⟨blanks, more, hblanks, rfl, rfl⟩ := exists_of_nextMember_end hnext
        exact ⟨[], blanks, more, rfl, rfl, .done hblanks, rfl⟩
      · rename_i left hnext
        obtain ⟨before, behind, hbefore, hbehind, rfl⟩ := exists_of_nextMember hnext
        split at h
        · cases h
        · rename_i next left' hmember
          obtain ⟨m, t, rfl, hm, htake⟩ := each _ _ _ _ hmember
          obtain ⟨ms, t', more, rfl, rfl, hms, hfold⟩ := ih h
          refine ⟨m :: ms, before ++ (lead first ++ (behind ++ (('"' :: t) ++ t'))), more,
            by simp, rfl, .member hbefore hbehind hm hms, ?_⟩
          rw [List.foldlM_cons, htake]
          exact hfold

end Json

end SurfaceBridge
