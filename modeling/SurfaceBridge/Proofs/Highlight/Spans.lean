import SurfaceBridge.Proofs.Highlight.Finding

set_option autoImplicit false

/-! # Spans do not overlap

The spans of a text are in order, apart from one another, not empty and inside lines. This needs
little of the rules: what gets a class lies inside a match, and the search goes on behind the
match. `Ordered low high` says it of the spans between two ends, so that it can be put together from
the spans of a match, of the rest of its line, and of the lines behind.
-/

namespace SurfaceBridge

open Text (IsPlace byteLength column)

/-- Spans that are not empty, in order and apart from one another, from `low` to `high`. -/
structure TokenSpan.Ordered (low high : Nat) (spans : List TokenSpan) : Prop where
  within : ∀ s ∈ spans, low ≤ s.start ∧ s.start < s.stop ∧ s.stop ≤ high
  apart : spans.Pairwise fun a b => a.stop ≤ b.start

namespace TokenSpan.Ordered

variable {low middle high : Nat} {spans more : List TokenSpan}

theorem nil (low high : Nat) : Ordered low high [] := ⟨by simp, List.Pairwise.nil⟩

theorem singleton {s : TokenSpan} (hlow : low ≤ s.start) (filled : s.start < s.stop)
    (hhigh : s.stop ≤ high) : Ordered low high [s] :=
  ⟨fun _ ht => List.mem_singleton.1 ht ▸ ⟨hlow, filled, hhigh⟩, List.pairwise_singleton _ _⟩

theorem widen {low' high' : Nat} (h : Ordered low high spans) (hlow : low' ≤ low)
    (hhigh : high ≤ high') : Ordered low' high' spans where
  within s hs := by
    have := h.within s hs
    omega
  apart := h.apart

theorem append {middle' : Nat} (h : Ordered low middle spans) (k : Ordered middle' high more)
    (hlow : low ≤ middle') (hmiddle : middle ≤ middle') (hhigh : middle ≤ high) :
    Ordered low high (spans ++ more) where
  within := by
    refine List.forall_mem_append.2 ⟨fun s hs => ?_, fun s hs => ?_⟩
    · obtain ⟨h1, h2, h3⟩ := h.within s hs
      exact ⟨h1, h2, by omega⟩
    · obtain ⟨h1, h2, h3⟩ := k.within s hs
      exact ⟨by omega, h2, h3⟩
  apart := by
    refine List.pairwise_append.2 ⟨h.apart, k.apart, fun s hs t ht => ?_⟩
    have := h.within s hs
    have := k.within t ht
    omega

end TokenSpan.Ordered

namespace Classifier

open TokenSpan (Ordered)

variable {line : List Char} {place : Nat}

/-- The span of a finding lies between the ends of the match. -/
theorem ordered_spanOf {f : Finding} (inside : f.Inside line place) (offset : Nat)
    (kind : TokenClass) :
    Ordered (offset + column line f.start) (offset + column line f.stop)
      (spanOf offset line kind f.part) := by
  cases hpart : f.part with
  | none => exact .nil _ _
  | some part =>
      obtain ⟨start, stop⟩ := part
      obtain ⟨hstart, hstop, le, le'⟩ := inside.part start stop hpart
      by_cases hlt : start < stop
      · rw [spanOf_eq hstart hstop hlt]
        have hlow := Text.column_le_column inside.isPlace_start hstart le
        have hfilled := Text.column_lt_column hstart hstop hlt
        have hhigh := Text.column_le_column hstop inside.isPlace_stop le'
        exact .singleton (Nat.add_le_add_left hlow _) (Nat.add_lt_add_left hfilled _)
          (Nat.add_le_add_left hhigh _)
      · rw [spanOf, if_neg fun h => hlt h.1]
        exact .nil _ _

/-- The spans of a line from a place on lie behind the place and in the line. -/
theorem ordered_classifyFrom (rules : List Rule) (offset : Nat) (hplace : IsPlace line place) :
    Ordered (offset + column line place) (offset + line.length)
      (classifyFrom rules offset line place) := by
  fun_induction classifyFrom rules offset line place with
  | case1 => exact .nil _ _
  | case2 place _ f kind hfound ih =>
      obtain ⟨before, r, after, -, -, taken⟩ := exists_of_leftmost hfound
      have inside := Rule.inside_findAt hplace taken.found
      have hstart := Text.column_le_column hplace inside.isPlace_start inside.le_start
      have hmatch := Text.column_le_column inside.isPlace_start inside.isPlace_stop
        (Nat.le_of_lt f.start_lt_stop)
      have hend := Text.column_le_column inside.isPlace_stop (Text.isPlace_byteLength line)
        inside.isPlace_stop.le
      rw [Text.column_byteLength] at hend
      -- the span ends with the match at the latest, and the rest is searched behind the match
      have hspan := ordered_spanOf inside offset kind
      have hall := hspan.append (ih inside.isPlace_stop) (by omega) (Nat.le_refl _) (by omega)
      exact hall.widen (by omega) (Nat.le_refl _)
  | case3 => exact .nil _ _

/-- The spans of a line lie in the line, and there is no newline in them. -/
theorem ordered_line (rules : List Rule) (before rest : List Char) (noNewline : '\n' ∉ line) :
    Ordered before.length (before.length + line.length)
        (classifyFrom rules before.length line 0)
      ∧ ∀ s ∈ classifyFrom rules before.length line 0,
        ∀ i, s.start ≤ i → i < s.stop → (before ++ (line ++ rest))[i]? ≠ some '\n' := by
  have hline := ordered_classifyFrom rules before.length (Text.isPlace_zero line)
  have hcolumn : column line 0 = 0 := Text.column_append [] line
  rw [hcolumn, Nat.add_zero] at hline
  refine ⟨hline, fun s hs i hstart hstop hnewline => noNewline ?_⟩
  obtain ⟨hlow, -, hhigh⟩ := hline.within s hs
  rw [List.getElem?_append_right (by omega), List.getElem?_append_left (by omega)] at hnewline
  exact List.mem_of_getElem? hnewline

/-- The spans of lines lie in their text, and there is no newline in them. -/
theorem ordered_classifyLines (rules : List Rule) (text before : List Char) :
    Ordered before.length (before.length + text.length)
        (classifyLines rules before.length (Text.lines text))
      ∧ ∀ s ∈ classifyLines rules before.length (Text.lines text),
        ∀ i, s.start ≤ i → i < s.stop → (before ++ text)[i]? ≠ some '\n' := by
  induction text using Text.lines_induction generalizing before with
  | last line noNewline =>
      have hline := ordered_line rules before [] noNewline
      rw [List.append_nil] at hline
      rwa [Text.lines_of_not_mem noNewline, classifyLines, classifyLines, List.append_nil]
  | more line rest noNewline ih =>
      obtain ⟨hspans, hclear⟩ := ordered_line rules before ('\n' :: rest) noNewline
      obtain ⟨hrest, hclear'⟩ := ih (before ++ line ++ ['\n'])
      have htext : before ++ (line ++ '\n' :: rest) = before ++ line ++ ['\n'] ++ rest := by simp
      have hlength : (before ++ line ++ ['\n']).length = before.length + line.length + 1 := by
        simp [Nat.add_assoc]
      rw [hlength] at hrest hclear'
      rw [Text.lines_append, Text.lines_of_not_mem noNewline, List.singleton_append, classifyLines]
      refine ⟨?_, List.forall_mem_append.2 ⟨hclear, fun s hs i => ?_⟩⟩
      · have hall := hspans.append hrest (by omega) (by omega) (by omega)
        rw [List.length_append, List.length_cons]
        exact hall.widen (Nat.le_refl _) (by omega)
      · rw [htext]
        exact hclear' s hs i

/-- The spans of a text are not empty, end inside it, cover no newline, and are in order and apart
from one another, whatever the rules are. -/
theorem ordered_classify (c : Classifier) (text : String) :
    (∀ s ∈ c.classify text, s.start < s.stop ∧ s.stop ≤ text.length
        ∧ ∀ i, s.start ≤ i → i < s.stop → text.toList[i]? ≠ some '\n')
      ∧ (c.classify text).Pairwise fun a b => a.stop ≤ b.start := by
  obtain ⟨ordered, clear⟩ := ordered_classifyLines c.rules text.toList []
  refine ⟨fun s hs => ?_, ordered.apart⟩
  obtain ⟨-, filled, high⟩ := ordered.within s hs
  rw [List.length_nil, Nat.zero_add, String.length_toList] at high
  exact ⟨filled, high, clear s hs⟩

end Classifier

end SurfaceBridge
