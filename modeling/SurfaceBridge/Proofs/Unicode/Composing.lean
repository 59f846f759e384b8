import Mathlib.Data.List.Forall2
import SurfaceBridge.Unicode.Normal

set_option autoImplicit false

/-! # What composing leaves alone

In ASCII, only the letters and `<`, `=` and `>` are bases of composed characters. All other
characters up to the grave accent are `isInert`: wherever they stand in a text, they stand in its
composed form as well (`mem_composed`).

That no inert character is a base is read off the text of the table. `areFirst` reads this text
without making the entries, which is what takes the time.
-/

namespace SurfaceBridge

namespace Unicode

namespace MappingTable

/-! ## First targets -/

/-- What is being read of an entry: its range, of which there may be a digit already, the first of
its targets, with the number read so far, or one of the others. -/
inductive Place where
  | range (started : Bool)
  | first (number : Nat)
  | others

/-- Whether the rest of a line is made of entries, the first targets of which are all good. -/
def areFirst (good : Nat → Bool) : Place → List Char → Bool
  | .range _, [] => false
  | .first n, [] => good n
  | .others, [] => true
  | .range started, c :: cs =>
    if c = '=' then started && areFirst good (.first 0) cs
    else if c = ' ' || c = '.' then false
    else areFirst good (.range (started || c ≠ '-')) cs
  | .first n, c :: cs =>
    if c = ' ' then good n && areFirst good (.range false) cs
    else if c = '.' then good n && areFirst good .others cs
    else if c = '=' || c = '-' then false
    else areFirst good (.first (36 * n + digitValue c)) cs
  | .others, c :: cs =>
    if c = ' ' then areFirst good (.range false) cs
    else if c = '=' || c = '-' then false
    else areFirst good .others cs

namespace Cursor

/-- The first targets of the entries that have been read are good. -/
def HasRead (good : Nat → Bool) (s : Cursor) : Prop :=
  ∀ e ∈ s.entries, ∃ n, e.targets.head? = some n ∧ good n = true

/-- A state that has got to a place. -/
def IsAt (good : Nat → Bool) (s : Cursor) : Place → Prop
  | .range started => s.isTarget = false ∧ s.targets = [] ∧ s.range.started = started
  | .first n => s.isTarget = true ∧ s.targets = [] ∧ s.range.number = n
    ∧ s.range.ranges.back?.isSome = true
  | .others => s.isTarget = true ∧ (∃ n, s.targets.getLast? = some n ∧ good n = true)
    ∧ s.range.ranges.back?.isSome = true

variable {good : Nat → Bool} {s : Cursor}

/-- An entry with a good first target ends. -/
theorem hasRead_finish (read : s.HasRead good) (isTarget : s.isTarget = true)
    (first : ∃ n, (s.range.number :: s.targets).getLast? = some n ∧ good n = true)
    (range : s.range.ranges.back?.isSome = true) :
    s.finish.HasRead good ∧ s.finish.IsAt good (.range false) := by
  obtain ⟨r, hr⟩ := Option.isSome_iff_exists.1 range
  have hfinish : s.finish = ⟨s.entries.push ⟨r.1, r.2, (s.range.number :: s.targets).reverse⟩,
      ⟨#[], s.range.next, none, 0, false⟩, [], false⟩ := by
    simp [Cursor.finish, isTarget, hr]
  rw [hfinish]
  refine ⟨fun e he => ?_, rfl, rfl, rfl⟩
  rcases Array.mem_push.1 he with he | rfl
  · exact read e he
  · rw [List.head?_reverse]
    exact first

/-- A line ends with an entry. -/
theorem hasRead_finish_of_isAt {place : Place} (read : s.HasRead good) (isAt : s.IsAt good place)
    (line : areFirst good place [] = true) :
    s.finish.HasRead good ∧ s.finish.IsAt good (.range false) := by
  cases place with
  | range started => cases line
  | first n =>
      obtain ⟨hisTarget, htargets, hnumber, hrange⟩ := isAt
      exact hasRead_finish read hisTarget ⟨n, by simp [htargets, hnumber], line⟩ hrange
  | others =>
      obtain ⟨hisTarget, ⟨n, hlast, hn⟩, hrange⟩ := isAt
      exact hasRead_finish read hisTarget ⟨n, by simp [List.getLast?_cons, hlast], hn⟩ hrange

/-- Most characters belong to the number that is being read. -/
theorem step_eq {c : Char} (blank : c ≠ ' ') (equal : c ≠ '=') (dot : c ≠ '.') :
    s.step c = { s with range := s.range.step c } := by
  simp [step, blank, equal, dot]

theorem isAt_step_range {started : Bool} {c : Char} {cs : List Char} (read : s.HasRead good)
    (isAt : s.IsAt good (.range started)) (line : areFirst good (.range started) (c :: cs) = true) :
    ∃ place, areFirst good place cs = true ∧ (s.step c).HasRead good
      ∧ (s.step c).IsAt good place := by
  obtain ⟨hisTarget, htargets, hstarted⟩ := isAt
  by_cases heq : c = '='
  · subst heq
    obtain ⟨rfl, hline⟩ : started = true ∧ areFirst good (.first 0) cs = true := by
      simpa [areFirst] using line
    refine ⟨.first 0, hline, read, rfl, htargets, ?_, ?_⟩
    · simp [step, RangeTable.Cursor.finish, hstarted]
    · simp [step, RangeTable.Cursor.finish, hstarted]
  · by_cases hend : c = ' ' ∨ c = '.'
    · simp [areFirst, heq, hend] at line
    · have hne : c ≠ ' ' ∧ c ≠ '.' := not_or.1 hend
      have hline : areFirst good (.range (started || c ≠ '-')) cs = true := by
        simpa [areFirst, heq, hne] using line
      rw [step_eq hne.1 heq hne.2]
      refine ⟨_, hline, read, hisTarget, htargets, ?_⟩
      by_cases hgap : c = '-' <;> simp [RangeTable.Cursor.step, hne, hgap, hstarted]

theorem isAt_step_first {n : Nat} {c : Char} {cs : List Char} (read : s.HasRead good)
    (isAt : s.IsAt good (.first n)) (line : areFirst good (.first n) (c :: cs) = true) :
    ∃ place, areFirst good place cs = true ∧ (s.step c).HasRead good
      ∧ (s.step c).IsAt good place := by
  have hfinish := hasRead_finish_of_isAt read isAt
  obtain ⟨hisTarget, htargets, hnumber, hrange⟩ := isAt
  by_cases hblank : c = ' '
  · subst hblank
    obtain ⟨hn, hline⟩ : good n = true ∧ areFirst good (.range false) cs = true := by
      simpa [areFirst] using line
    exact ⟨.range false, hline, hfinish hn⟩
  · by_cases hdot : c = '.'
    · subst hdot
      obtain ⟨hn, hline⟩ : good n = true ∧ areFirst good .others cs = true := by
        simpa [areFirst] using line
      refine ⟨.others, hline, read, hisTarget, ⟨n, ?_, hn⟩, hrange⟩
      simp [step, htargets, hnumber]
    · by_cases hend : c = '=' ∨ c = '-'
      · simp [areFirst, hblank, hdot, hend] at line
      · have hne : c ≠ '=' ∧ c ≠ '-' := not_or.1 hend
        have hline : areFirst good (.first (36 * n + digitValue c)) cs = true := by
          simpa [areFirst, hblank, hdot, hne] using line
        rw [step_eq hblank hne.1 hdot]
        refine ⟨_, hline, read, hisTarget, htargets, ?_, ?_⟩
        · simp [RangeTable.Cursor.step, hblank, hne, hnumber]
        · simpa [RangeTable.Cursor.step, hblank, hne] using hrange

theorem isAt_step_others {c : Char} {cs : List Char} (read : s.HasRead good)
    (isAt : s.IsAt good .others) (line : areFirst good .others (c :: cs) = true) :
    ∃ place, areFirst good place cs = true ∧ (s.step c).HasRead good
      ∧ (s.step c).IsAt good place := by
  have hfinish := hasRead_finish_of_isAt read isAt rfl
  obtain ⟨hisTarget, ⟨n, hlast, hn⟩, hrange⟩ := isAt
  by_cases hblank : c = ' '
  · subst hblank
    have hline : areFirst good (.range false) cs = true := by simpa [areFirst] using line
    exact ⟨.range false, hline, hfinish⟩
  · by_cases hend : c = '=' ∨ c = '-'
    · simp [areFirst, hblank, hend] at line
    · have hne : c ≠ '=' ∧ c ≠ '-' := not_or.1 hend
      have hline : areFirst good .others cs = true := by
        simpa [areFirst, hblank, hne] using line
      by_cases hdot : c = '.'
      · subst hdot
        refine ⟨.others, hline, read, hisTarget, ⟨n, ?_, hn⟩, hrange⟩
        simp [step, List.getLast?_cons, hlast]
      · rw [step_eq hblank hne.1 hdot]
        refine ⟨.others, hline, read, hisTarget, ⟨n, hlast, hn⟩, ?_⟩
        simpa [RangeTable.Cursor.step, hblank, hne] using hrange

/-- Reading goes on at the place that the next character leads to. -/
theorem hasRead_foldl (cs : List Char) (place : Place) (read : s.HasRead good)
    (isAt : s.IsAt good place) (line : areFirst good place cs = true) :
    (cs.foldl step s).finish.HasRead good ∧ (cs.foldl step s).finish.IsAt good (.range false) := by
  induction cs generalizing s place with
  | nil => exact hasRead_finish_of_isAt read isAt line
  | cons c cs ih =>
      obtain ⟨place', hline, hread, hat⟩ : ∃ place', areFirst good place' cs = true
          ∧ (s.step c).HasRead good ∧ (s.step c).IsAt good place' := by
        cases place with
        | range started => exact isAt_step_range read isAt line
        | first n => exact isAt_step_first read isAt line
        | others => exact isAt_step_others read isAt line
      exact ih place' hread hat hline

end Cursor

/-- The first targets of a mapping are those in its lines. -/
theorem head?_of_mem_ofLines {good : Nat → Bool} {lines : List String}
    (ok : ∀ line ∈ lines, areFirst good (.range false) line.toList = true) {e : MappingEntry}
    (he : e ∈ ofLines lines) : ∃ n, e.targets.head? = some n ∧ good n = true := by
  have key : ∀ (lines : List String) (s : Cursor),
      (∀ line ∈ lines, areFirst good (.range false) line.toList = true) → s.HasRead good →
      s.IsAt good (.range false) →
      (lines.foldl (fun (s : Cursor) (line : String) => (line.toList.foldl Cursor.step s).finish)
        s).HasRead good := by
    intro lines
    induction lines with
    | nil => exact fun s _ read _ => read
    | cons line lines ih =>
        intro s ok read isAt
        obtain ⟨hread, hat⟩ := Cursor.hasRead_foldl line.toList _ read isAt (ok line (by simp))
        exact ih _ (fun line' h => ok line' (by simp [h])) hread hat
  exact key lines _ ok (fun e he => by simp at he) ⟨rfl, rfl, rfl⟩ e he

/-- What holds of the characters that some strings are written with. -/
theorem forall_toList {p : List Char → Bool} {lines : List String}
    (h : ∃ chars : List (List Char),
      List.Forall₂ (fun line cs => line = String.ofList cs) lines chars ∧ chars.all p = true) :
    ∀ line ∈ lines, p line.toList = true := by
  obtain ⟨chars, written, h⟩ := h
  induction written with
  | nil => simp
  | cons eq written ih =>
      rw [List.all_cons, Bool.and_eq_true] at h
      intro line hline
      rcases List.mem_cons.1 hline with rfl | hline
      · rw [eq, String.toList_ofList]
        exact h.1
      · exact ih h.2 line hline

end MappingTable

/-! ## Characters that are no bases -/

/-- Whether a code point is in ASCII, up to the grave accent, and is neither a letter nor `<`, `=`
or `>`. -/
def isInert (n : Nat) : Bool :=
  n < 0x3C || (0x3F ≤ n && n ≤ 0x40) || (0x5B ≤ n && n ≤ 0x60)

theorem lt_of_isInert {n : Nat} (h : isInert n = true) : n < 0x80 := by
  simp only [isInert, Bool.or_eq_true, Bool.and_eq_true, decide_eq_true_eq] at h
  omega

theorem isInert_of_mem_compositions {e : MappingEntry} (he : e ∈ compositions) :
    ∃ n, e.targets.head? = some n ∧ isInert n = false := by
  have hlines : ∃ n, e.targets.head? = some n ∧ (!isInert n) = true := by
    refine MappingTable.head?_of_mem_ofLines (MappingTable.forall_toList ?_) he
    -- the characters of the lines are found while the lines are gone through
    constructor
    constructor
    · dsimp only
      repeat' constructor
    · decide +kernel
  simpa using hlines

/-- An inert character composes with nothing. -/
theorem composePair?_of_isInert {a : Nat} (h : isInert a = true) (b : Nat) :
    composePair? a b = none := by
  have hlt := lt_of_isInert h
  have hsyllable : Hangul.compose? a b = none := by
    unfold Hangul.compose? Hangul.firstSyllable
    rw [if_neg (by omega), if_neg (by omega)]
  have hentry : compositions.find? (fun e => e.targets == [a, b]) = none := by
    refine Array.find?_eq_none.2 fun e he heq => ?_
    obtain ⟨n, hn, hinert⟩ := isInert_of_mem_compositions he
    rw [eq_of_beq heq] at hn
    obtain rfl : a = n := Option.some.inj hn
    rw [h] at hinert
    cases hinert
  unfold composePair? MappingTable.inverse?
  rw [hsyllable, hentry]
  split <;> rfl

/-- Nothing composes with a character in front of the marks. -/
theorem composePair?_of_lt (a : Nat) {b : Nat} (h : b < 0x80) : composePair? a b = none := by
  unfold composePair?
  rw [if_pos (by omega)]

/-! ## The composed form -/

theorem decomposeChar_of_lt (fuel : Nat) {n : Nat} (h : n < 0xC0) :
    decomposeChar (fuel + 1) n = [n] := by
  rw [decomposeChar, decomposeWith, if_pos h]

theorem mem_insertMark {n c : Nat} {ds : List Nat} (h : n = c ∨ n ∈ ds) : n ∈ insertMark c ds := by
  induction ds with
  | nil => simpa [insertMark] using h
  | cons d ds ih =>
      unfold insertMark
      split
      · rcases h with h | h
        · exact List.mem_cons_of_mem d (ih (Or.inl h))
        · rcases List.mem_cons.1 h with h | h
          · exact List.mem_cons.2 (Or.inl h)
          · exact List.mem_cons_of_mem d (ih (Or.inr h))
      · exact List.mem_cons.2 h

theorem mem_orderMarks {n : Nat} {s : List Nat} (h : n ∈ s) : n ∈ orderMarks s := by
  have key : ∀ (s done : List Nat), n ∈ s ∨ n ∈ done →
      n ∈ s.foldl (fun (done : List Nat) (c : Nat) => insertMark c done) done := by
    intro s
    induction s with
    | nil => exact fun done h => h.resolve_left List.not_mem_nil
    | cons c s ih =>
        intro done h
        refine ih _ ?_
        rcases h with h | h
        · rcases List.mem_cons.1 h with h | h
          · exact Or.inr (mem_insertMark (Or.inl h))
          · exact Or.inl h
        · exact Or.inr (mem_insertMark (Or.inr h))
  exact List.mem_reverse.2 (key s [] (Or.inl h))

theorem mem_composeFrom {n base : Nat} {marks cs : List Nat} (inert : isInert n = true)
    (h : n = base ∨ n ∈ marks ∨ n ∈ cs) : n ∈ composeFrom base marks cs := by
  induction cs generalizing base marks with
  | nil => simpa [composeFrom] using h
  | cons c cs ih =>
      unfold composeFrom
      dsimp only
      split
      · rename_i whole hwhole
        have hpair : composePair? base c = some whole := by
          split at hwhole <;> split at hwhole <;> first | exact hwhole | cases hwhole
        -- neither the base nor what has been composed with it is inert
        rcases h with rfl | h | h
        · rw [composePair?_of_isInert inert] at hpair
          cases hpair
        · exact ih (Or.inr (Or.inl h))
        · rcases List.mem_cons.1 h with rfl | h
          · rw [composePair?_of_lt base (lt_of_isInert inert)] at hpair
            cases hpair
          · exact ih (Or.inr (Or.inr h))
      · split
        · rcases h with h | h | h
          · exact List.mem_cons.2 (Or.inl h)
          · simp [h]
          · have hfrom : n ∈ composeFrom c [] cs := ih (by simpa using h)
            simp [hfrom]
        · refine ih ?_
          rcases h with h | h | h
          · exact Or.inl h
          · exact Or.inr (Or.inl (by simp [h]))
          · rcases List.mem_cons.1 h with rfl | h
            · exact Or.inr (Or.inl (by simp))
            · exact Or.inr (Or.inr h)

theorem mem_composeMarks {n : Nat} {s : List Nat} (inert : isInert n = true) (h : n ∈ s) :
    n ∈ composeMarks s := by
  induction s with
  | nil => cases h
  | cons c s ih =>
      unfold composeMarks
      split
      · exact mem_composeFrom inert (by simpa using h)
      · rcases List.mem_cons.1 h with rfl | h
        · exact List.mem_cons_self
        · exact List.mem_cons_of_mem c (ih h)

/-- Inert characters stay in a text when it is composed. -/
theorem mem_composed {c : Char} {s : List Char} (inert : isInert c.toNat = true) (h : c ∈ s) :
    c ∈ composed s := by
  have hlt := lt_of_isInert inert
  have hwhole : decomposeChar 4 c.toNat = [c.toNat] := decomposeChar_of_lt 3 (by omega)
  have hparts : c.toNat ∈ s.flatMap fun c => decomposeChar 4 c.toNat := by
    refine List.mem_flatMap.2 ⟨c, h, ?_⟩
    rw [hwhole]
    exact List.mem_singleton.2 rfl
  have hcomposed := mem_composeMarks inert (mem_orderMarks hparts)
  exact List.mem_map.2 ⟨c.toNat, hcomposed, Char.ofNat_toNat c⟩

end Unicode

end SurfaceBridge
