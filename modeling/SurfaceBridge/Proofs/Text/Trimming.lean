import Mathlib.Data.List.TakeWhile
import SurfaceBridge.Text.Blank

set_option autoImplicit false

/-! # Trimming

A text is blanks, a text that neither starts nor ends with a blank, and blanks again. Trimming leaves
what is in the middle (`trim_eq_iff`), so it does not matter how many blanks there are around it.
-/

namespace SurfaceBridge

namespace Text

/-- A text of blanks. -/
def Blanks (s : List Char) : Prop := ∀ c ∈ s, isBlank c = true

/-- A text that neither starts nor ends with a blank. -/
structure IsTrimmed (s : List Char) : Prop where
  first : ∀ c, s.head? = some c → isBlank c = false
  last : ∀ c, s.getLast? = some c → isBlank c = false

instance (s : List Char) : Decidable (Blanks s) :=
  decidable_of_iff (s.all isBlank = true) List.all_eq_true

variable {s t before behind : List Char}

theorem Blanks.append (h : Blanks s) (k : Blanks t) : Blanks (s ++ t) := by
  intro c hc
  rcases List.mem_append.1 hc with hc | hc
  · exact h c hc
  · exact k c hc

theorem Blanks.reverse (h : Blanks s) : Blanks s.reverse :=
  fun c hc => h c (List.mem_reverse.1 hc)

theorem isTrimmed_nil : IsTrimmed [] :=
  ⟨fun _ h => (by cases h), fun _ h => (by cases h)⟩

/-- A text without blanks is trimmed. -/
theorem isTrimmed_of_word (word : ∀ c ∈ s, isBlank c = false) : IsTrimmed s :=
  ⟨fun c h => word c (List.mem_of_head? h), fun c h => word c (List.mem_of_getLast? h)⟩

/-- A trimmed text starts with a blank only if it is empty. -/
theorem IsTrimmed.eq_nil (trimmed : IsTrimmed s)
    (blank : ∀ c, s.head? = some c → isBlank c = true) : s = [] := by
  cases s with
  | nil => rfl
  | cons c s =>
      have hfirst := trimmed.first c rfl
      rw [blank c rfl] at hfirst
      cases hfirst

/-! ## The start -/

theorem trimStart_append (blanks : Blanks before) (s : List Char) :
    trimStart (before ++ s) = trimStart s :=
  List.dropWhile_append_of_pos blanks

theorem trimStart_of_first (first : ∀ c, s.head? = some c → isBlank c = false) :
    trimStart s = s := by
  cases s with
  | nil => rfl
  | cons c s =>
      have hc := first c rfl
      exact List.dropWhile_cons_of_neg (by simp [hc])

theorem exists_trimStart (s : List Char) : ∃ before, Blanks before ∧ s = before ++ trimStart s :=
  ⟨s.takeWhile isBlank, fun _ hc => List.mem_takeWhile_imp hc,
    List.takeWhile_append_dropWhile.symm⟩

theorem first_trimStart (s : List Char) :
    ∀ c, (trimStart s).head? = some c → isBlank c = false := by
  intro c hc
  have hhead := List.head?_dropWhile_not isBlank s
  rw [show s.dropWhile isBlank = trimStart s from rfl, hc] at hhead
  simpa using hhead

/-! ## The end -/

theorem trimEnd_eq (s : List Char) : trimEnd s = (trimStart s.reverse).reverse := rfl

theorem trimEnd_append (blanks : Blanks behind) (s : List Char) :
    trimEnd (s ++ behind) = trimEnd s := by
  rw [trimEnd_eq, List.reverse_append, trimStart_append blanks.reverse, trimEnd_eq]

theorem trimEnd_of_last (last : ∀ c, s.getLast? = some c → isBlank c = false) :
    trimEnd s = s := by
  rw [trimEnd_eq, trimStart_of_first (by rwa [List.head?_reverse]), List.reverse_reverse]

theorem exists_trimEnd (s : List Char) : ∃ behind, Blanks behind ∧ s = trimEnd s ++ behind := by
  obtain ⟨before, hblanks, hs⟩ := exists_trimStart s.reverse
  refine ⟨before.reverse, hblanks.reverse, ?_⟩
  rw [trimEnd_eq, ← List.reverse_append, ← hs, List.reverse_reverse]

theorem last_trimEnd (s : List Char) :
    ∀ c, (trimEnd s).getLast? = some c → isBlank c = false := by
  rw [trimEnd_eq, List.getLast?_reverse]
  exact first_trimStart s.reverse

/-! ## Both ends -/

theorem isTrimmed_trim (s : List Char) : IsTrimmed (trim s) where
  first c hc := by
    -- what is left of a text at its end starts as the text does
    obtain ⟨behind, -, hs⟩ := exists_trimEnd (trimStart s)
    refine first_trimStart s c ?_
    rw [hs, List.head?_append, show trimEnd (trimStart s) = trim s from rfl, hc]
    rfl
  last := last_trimEnd (trimStart s)

theorem exists_trim (s : List Char) :
    ∃ before behind, Blanks before ∧ Blanks behind ∧ s = before ++ trim s ++ behind := by
  obtain ⟨before, hbefore, hstart⟩ := exists_trimStart s
  obtain ⟨behind, hbehind, hend⟩ := exists_trimEnd (trimStart s)
  refine ⟨before, behind, hbefore, hbehind, ?_⟩
  rw [List.append_assoc, show trim s = trimEnd (trimStart s) from rfl, ← hend, ← hstart]

/-- Blanks around a trimmed text are dropped. -/
theorem trim_append (blanks : Blanks before) (trimmed : IsTrimmed t) (blanks' : Blanks behind) :
    trim (before ++ t ++ behind) = t := by
  unfold trim
  rw [List.append_assoc, trimStart_append blanks]
  cases t with
  | nil =>
      have hall : trimStart ([] ++ behind) = [] := by
        simpa [trimStart] using trimStart_append blanks' []
      rw [hall]
      rfl
  | cons c t =>
      have hfirst : trimStart (c :: t ++ behind) = c :: t ++ behind := trimStart_of_first trimmed.first
      rw [hfirst, trimEnd_append blanks', trimEnd_of_last trimmed.last]

/-- Trimming leaves the trimmed text that has nothing but blanks around it. -/
theorem trim_eq_iff :
    trim s = t ↔ IsTrimmed t
      ∧ ∃ before behind, Blanks before ∧ Blanks behind ∧ s = before ++ t ++ behind := by
  constructor
  · rintro rfl
    exact ⟨isTrimmed_trim s, exists_trim s⟩
  · rintro ⟨trimmed, before, behind, hbefore, hbehind, rfl⟩
    exact trim_append hbefore trimmed hbehind

theorem trim_eq_nil_iff : trim s = [] ↔ Blanks s := by
  rw [trim_eq_iff]
  constructor
  · rintro ⟨-, before, behind, hbefore, hbehind, rfl⟩
    rw [List.append_nil]
    exact hbefore.append hbehind
  · exact fun h => ⟨isTrimmed_nil, [], s, fun _ hc => absurd hc List.not_mem_nil, h, rfl⟩

/-- More blanks around a text change nothing. -/
theorem trim_blanks (blanks : Blanks before) (s : List Char) (blanks' : Blanks behind) :
    trim (before ++ s ++ behind) = trim s := by
  obtain ⟨front, back, hfront, hback, hs⟩ := exists_trim s
  refine trim_eq_iff.2 ⟨isTrimmed_trim s, before ++ front, back ++ behind, blanks.append hfront,
    hback.append blanks', ?_⟩
  calc before ++ s ++ behind
      = before ++ (front ++ trim s ++ back) ++ behind := by rw [← hs]
    _ = before ++ front ++ trim s ++ (back ++ behind) := by simp only [List.append_assoc]

end Text

end SurfaceBridge
