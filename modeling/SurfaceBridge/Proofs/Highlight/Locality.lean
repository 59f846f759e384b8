import SurfaceBridge.Proofs.Highlight.Spans

set_option autoImplicit false

/-! # Lines are classified on their own

The spans of a line do not depend on the other lines, but for the number of characters in front of
the line, by which they are shifted (`classifyFrom_shift`). So a newline between two texts parts
their spans: those of the first stay as they are, and those of the second are behind it
(`classify_append`).

What stands around some whole lines of a text is classified once for all texts that may stand there
(`exists_before`, `exists_behind`).
-/

namespace SurfaceBridge

/-- A span with more characters in front of it. -/
def TokenSpan.shift (count : Nat) (s : TokenSpan) : TokenSpan :=
  ⟨s.start + count, s.stop + count, s.kind⟩

theorem TokenSpan.shift_shift (m n : Nat) (s : TokenSpan) :
    (s.shift m).shift n = s.shift (m + n) := by
  simp [shift, Nat.add_assoc]

theorem TokenSpan.map_shift_shift (m n : Nat) (spans : List TokenSpan) :
    (spans.map (shift m)).map (shift n) = spans.map (shift (m + n)) := by
  rw [List.map_map]
  exact List.map_congr_left fun s _ => s.shift_shift m n

theorem TokenSpan.map_shift_zero (spans : List TokenSpan) : spans.map (shift 0) = spans :=
  List.map_id spans

namespace Classifier

variable (rules : List Rule)

theorem spanOf_shift (offset count : Nat) (line : List Char) (kind : TokenClass)
    (part : Option (Nat × Nat)) :
    spanOf (offset + count) line kind part = (spanOf offset line kind part).map (.shift count) := by
  cases part with
  | none => rfl
  | some part =>
      obtain ⟨start, stop⟩ := part
      by_cases h : start < stop ∧ stop ≤ Text.byteLength line
      · simp [spanOf, if_pos h, TokenSpan.shift, Nat.add_right_comm]
      · simp [spanOf, if_neg h]

/-- What is found in a line does not depend on what stands in front of it. -/
theorem classifyFrom_shift (offset count : Nat) (line : List Char) (place : Nat) :
    classifyFrom rules (offset + count) line place
      = (classifyFrom rules offset line place).map (.shift count) := by
  fun_induction classifyFrom rules offset line place with
  | case1 place inside nothing => rw [classifyFrom_of_lt _ inside, nothing, List.map_nil]
  | case2 place inside f kind found ih =>
      rw [classifyFrom_of_lt _ inside, found, List.map_append, ← spanOf_shift, ← ih]
  | case3 place behind => rw [classifyFrom, dif_neg behind, List.map_nil]

theorem classifyLines_shift (offset count : Nat) (lines : List (List Char)) :
    classifyLines rules (offset + count) lines
      = (classifyLines rules offset lines).map (.shift count) := by
  induction lines generalizing offset with
  | nil => rfl
  | cons line lines ih =>
      rw [classifyLines, classifyLines, List.map_append, classifyFrom_shift, ← ih]
      congr 2
      omega

/-- The lines of a text in front of other lines. -/
theorem classifyLines_lines_append (text : List Char) (offset : Nat) (more : List (List Char)) :
    classifyLines rules offset (Text.lines text ++ more)
      = classifyLines rules offset (Text.lines text)
        ++ classifyLines rules (offset + (text.length + 1)) more := by
  induction text using Text.lines_induction generalizing offset with
  | last line noNewline =>
      rw [Text.lines_of_not_mem noNewline, List.singleton_append, classifyLines, classifyLines,
        classifyLines, List.append_nil, Nat.add_assoc]
  | more line rest noNewline ih =>
      have hlength : offset + line.length + 1 + (rest.length + 1)
          = offset + ((line ++ '\n' :: rest).length + 1) := by
        rw [List.length_append, List.length_cons]
        omega
      rw [Text.lines_append, Text.lines_of_not_mem noNewline, List.singleton_append,
        List.cons_append, classifyLines, classifyLines, ih, hlength, List.append_assoc]

variable (c : Classifier)

/-- A newline parts the spans of two texts. -/
theorem classify_append (a b : String) :
    c.classify (a ++ "\n" ++ b)
      = c.classify a ++ (c.classify b).map (.shift (a.length + 1)) := by
  have htext : (a ++ "\n" ++ b).toList = a.toList ++ '\n' :: b.toList := by simp
  rw [classify, classify, classify, htext, Text.lines_append, classifyLines_lines_append,
    classifyLines_shift, String.length_toList]

/-- What stands in front of some lines. -/
theorem exists_before {front : String} (whole : front = "" ∨ ∃ a, front = a ++ "\n") :
    ∃ before : List TokenSpan, (∀ s ∈ before, s.stop < front.length)
      ∧ ∀ rest, c.classify (front ++ rest) = before ++ (c.classify rest).map (.shift front.length) := by
  rcases whole with rfl | ⟨a, rfl⟩
  · exact ⟨[], by simp, fun rest => by simp [TokenSpan.map_shift_zero]⟩
  · have hlength : (a ++ "\n").length = a.length + 1 := String.length_append _ _
    refine ⟨c.classify a, fun s hs => ?_, fun rest => ?_⟩
    · obtain ⟨ordered, -⟩ := ordered_classifyLines c.rules a.toList []
      obtain ⟨-, -, hstop⟩ := ordered.within s hs
      rw [List.length_nil, String.length_toList] at hstop
      omega
    · rw [hlength, classify_append]

/-- What stands behind some lines. -/
theorem exists_behind {back : String} (whole : back = "" ∨ ∃ b, back = "\n" ++ b) :
    ∃ behind : List TokenSpan, (∀ s ∈ behind, 0 < s.start)
      ∧ ∀ rest, c.classify (rest ++ back) = c.classify rest ++ behind.map (.shift rest.length) := by
  rcases whole with rfl | ⟨b, rfl⟩
  · exact ⟨[], by simp, fun rest => by simp⟩
  · refine ⟨(c.classify b).map (.shift 1), fun s hs => ?_, fun rest => ?_⟩
    · obtain ⟨t, -, rfl⟩ := List.mem_map.1 hs
      exact Nat.succ_pos _
    · rw [← String.append_assoc, classify_append, TokenSpan.map_shift_shift, Nat.add_comm 1]

/-- A newline parts the spans of two texts. So what stands in front of a line and behind it has the
same spans whatever the line is, and those behind it are as far behind as the line is long. -/
theorem local_classify :
    (∀ a b : String, c.classify (a ++ "\n" ++ b)
        = c.classify a ++ (c.classify b).map (.shift (a.length + 1)))
      ∧ ∀ front back : String, (front = "" ∨ ∃ a, front = a ++ "\n") →
        (back = "" ∨ ∃ b, back = "\n" ++ b) →
        ∃ before behind : List TokenSpan,
          (∀ s ∈ before, s.stop < front.length) ∧ (∀ s ∈ behind, 0 < s.start)
            ∧ ∀ line, c.classify (front ++ line ++ back)
              = before ++ (c.classify line).map (.shift front.length)
                ++ behind.map (.shift (front.length + line.length)) := by
  refine ⟨c.classify_append, fun front back hfront hback => ?_⟩
  obtain ⟨before, hbefore, classify_front⟩ := c.exists_before hfront
  obtain ⟨behind, hbehind, classify_back⟩ := c.exists_behind hback
  refine ⟨before, behind, hbefore, hbehind, fun line => ?_⟩
  rw [classify_back, classify_front, String.length_append]

/-- Another line in the middle leaves the line above as it is and moves the line below. -/
theorem local_classify_replaced :
    ∃ (c : Classifier) (before behind : List TokenSpan),
      ofTable .standard [("x*", .variableName), ("y", .constant)] = .ok c
      ∧ c.classify "éx\ny\nx" = [⟨1, 2, .variableName⟩, ⟨3, 4, .constant⟩, ⟨5, 6, .variableName⟩]
      ∧ c.classify "éx\né\rxx\nx"
        = [⟨1, 2, .variableName⟩, ⟨5, 7, .variableName⟩, ⟨8, 9, .variableName⟩]
      ∧ (∀ s ∈ before, s.stop < "éx\n".length) ∧ (∀ s ∈ behind, 0 < s.start)
      ∧ ∀ line, c.classify ("éx\n" ++ line ++ "\nx")
        = before ++ (c.classify line).map (.shift "éx\n".length)
          ++ behind.map (.shift ("éx\n".length + line.length)) := by
  have hcompiled : (ofTable .standard [("x*", .variableName), ("y", .constant)]).toOption.map
        (fun c => (c.classify "éx\ny\nx", c.classify "éx\né\rxx\nx"))
      = some ([⟨1, 2, .variableName⟩, ⟨3, 4, .constant⟩, ⟨5, 6, .variableName⟩],
        [⟨1, 2, .variableName⟩, ⟨5, 7, .variableName⟩, ⟨8, 9, .variableName⟩]) := by
    decide +kernel
  cases hc : ofTable .standard [("x*", .variableName), ("y", .constant)] with
  | error pattern =>
      rw [hc] at hcompiled
      cases hcompiled
  | ok c =>
      rw [hc] at hcompiled
      obtain ⟨hshort, hlong⟩ := Prod.mk.inj (Option.some.inj hcompiled)
      obtain ⟨before, behind, hbefore, hbehind, hline⟩ :=
        (local_classify c).2 "éx\n" "\nx" (Or.inr ⟨"éx", by decide⟩) (Or.inr ⟨"x", by decide⟩)
      exact ⟨c, before, behind, rfl, hshort, hlong, hbefore, hbehind, hline⟩

end Classifier

end SurfaceBridge
