import SurfaceBridge.Proofs.Highlight.Finding

set_option autoImplicit false

/-! # The first match, and the earliest rule

`Scanned` is what it means that the spans of a line are the right ones: each is cut out of the line
by the first match of some rule from the end of the span before it, no rule matches earlier, and
behind the last one no rule matches any more. It speaks of the matches of the patterns (`First`) and
of the characters of the line, and of places in bytes only where a search starts.

`scanned_classify` says that the spans of every line of a text are scanned, for rules without
groups.
-/

namespace SurfaceBridge

open Text (IsPlace byteLength column)

/-- The characters of a text that a span covers. -/
def TokenSpan.cut (s : TokenSpan) (text : List Char) : List Char :=
  (text.drop s.start).take (s.stop - s.start)

/-- The spans of a line of a text from a place on. The line has `offset` characters in front of
it. -/
inductive Classifier.Scanned (rules : List Rule) (text : List Char) (offset : Nat)
    (line : List Char) : Nat → List TokenSpan → Prop where
  /-- No rule has a match that is not empty. -/
  | done {place : Nat}
      (nothing : ∀ r ∈ rules, ∀ start stop, ¬ r.pattern.First line place start stop) :
      Scanned rules text offset line place []
  /-- A rule between others has a match that is not empty, and its characters get the class of the
  rule. No rule has one that starts earlier, and no rule in front has one that starts there. -/
  | next {place : Nat} {before after : List Rule} {r : Rule} {front matched behind : List Char}
      {s : TokenSpan} {spans : List TokenSpan}
      (rule : rules = before ++ r :: after)
      (split : line = front ++ matched ++ behind)
      (filled : matched ≠ [])
      (first : r.pattern.First line place (byteLength front) (byteLength (front ++ matched)))
      (leftmost : ∀ q ∈ rules, ∀ start stop, q.pattern.First line place start stop →
        byteLength front ≤ start)
      (earliest : ∀ q ∈ before, ∀ start stop, q.pattern.First line place start stop →
        byteLength front < start)
      (span : s = ⟨offset + front.length, offset + front.length + matched.length, r.kind⟩)
      (cut : s.cut text = matched)
      (more : Scanned rules text offset line (byteLength (front ++ matched)) spans) :
      Scanned rules text offset line place (s :: spans)

namespace Classifier

variable {rules : List Rule} {line : List Char} {place : Nat}

/-- A match ends in its line and behind the place where the search started. -/
theorem bounds_of_first {r : Rule} {start stop : Nat} (hplace : IsPlace line place)
    (first : r.pattern.First line place start stop) :
    place ≤ start ∧ start < stop ∧ stop ≤ byteLength line := by
  obtain ⟨f, hf, rfl, rfl⟩ := (Rule.first_iff_findAt hplace).1 first
  have inside := Rule.inside_findAt hplace hf
  exact ⟨inside.le_start, f.start_lt_stop, inside.isPlace_stop.le⟩

/-- Characters of a line are found in the text behind those in front of the line. -/
theorem cut_of_split {before front matched behind rest : List Char} (kind : TokenClass) :
    TokenSpan.cut
      ⟨before.length + front.length, before.length + front.length + matched.length, kind⟩
      (before ++ (front ++ matched ++ behind) ++ rest) = matched := by
  have htext : before ++ (front ++ matched ++ behind) ++ rest
      = before ++ front ++ (matched ++ (behind ++ rest)) := by simp
  rw [TokenSpan.cut, htext, ← List.length_append, List.drop_left, Nat.add_sub_cancel_left,
    List.take_left]

theorem scanned_classifyFrom (whole : ∀ r ∈ rules, r.group = none) (before rest : List Char)
    (hplace : IsPlace line place) :
    Scanned rules (before ++ line ++ rest) before.length line place
      (classifyFrom rules before.length line place) := by
  fun_induction classifyFrom rules before.length line place with
  | case1 place _ hnothing =>
      refine .done fun r hr start stop first => ?_
      obtain ⟨f, hf, -⟩ := (Rule.first_iff_findAt hplace).1 first
      rw [leftmost_eq_none.1 hnothing r hr] at hf
      cases hf
  | case2 place _ f kind hfound ih =>
      obtain ⟨earlier, r, later, hrules, rfl, taken⟩ := exists_of_leftmost hfound
      have inside := Rule.inside_findAt hplace taken.found
      obtain ⟨front, matched, behind, hline, hfront, hmatched⟩ :=
        Text.exists_between inside.isPlace_start inside.isPlace_stop (Nat.le_of_lt f.start_lt_stop)
      have hr : r ∈ rules := by simp [hrules]
      have hpart := Rule.part_of_findAt hplace (whole r hr) taken.found
      -- the columns of the match are where its characters stand
      have hstart : column line f.start = front.length := by
        rw [← hfront, hline, List.append_assoc, Text.column_append]
      have hstop : column line f.stop = front.length + matched.length := by
        rw [← hmatched, hline, Text.column_append, List.length_append]
      rw [hpart, spanOf_eq inside.isPlace_start inside.isPlace_stop f.start_lt_stop, hstart, hstop,
        ← Nat.add_assoc, List.singleton_append]
      have hfirst : ∀ q : Rule, ∀ start stop, q.pattern.First line place start stop →
          ∃ g, q.findAt line place = some g ∧ g.start = start := by
        intro q start stop first
        obtain ⟨g, hg, hs, -⟩ := (Rule.first_iff_findAt hplace).1 first
        exact ⟨g, hg, hs⟩
      refine .next hrules hline ?filled ?first ?leftmost ?earliest rfl ?cut ?more
      case filled =>
          rintro rfl
          have := f.start_lt_stop
          rw [← hfront, ← hmatched, List.append_nil] at this
          omega
      case first =>
          rw [hfront, hmatched]
          exact (Rule.first_iff_findAt hplace).2 ⟨f, taken.found, rfl, rfl⟩
      case leftmost =>
          intro q hq start stop first
          obtain ⟨g, hg, rfl⟩ := hfirst q start stop first
          rw [hfront]
          exact taken.leftmost q (hrules ▸ hq) g hg
      case earliest =>
          intro q hq start stop first
          obtain ⟨g, hg, rfl⟩ := hfirst q start stop first
          rw [hfront]
          exact taken.earliest q hq g hg
      case cut =>
          rw [hline]
          exact cut_of_split r.kind
      case more =>
          rw [hmatched]
          exact ih inside.isPlace_stop
  | case3 place hend =>
      -- at the end of the line there is no room for a match
      refine .done fun r _ start stop first => ?_
      have := bounds_of_first hplace first
      omega

/-- The spans of each line are scanned. -/
theorem scanned_classifyLines (whole : ∀ r ∈ rules, r.group = none) (text before : List Char) :
    ∃ parts, classifyLines rules before.length (Text.lines text) = parts.flatten
      ∧ List.Forall₂ (fun line spans => Scanned rules (before ++ text) line.1 line.2 0 spans)
        (Text.numbered before.length (Text.lines text)) parts := by
  induction text using Text.lines_induction generalizing before with
  | last line noNewline =>
      have hline := scanned_classifyFrom whole before [] (Text.isPlace_zero line)
      rw [List.append_nil] at hline
      rw [Text.lines_of_not_mem noNewline]
      exact ⟨[_], rfl, .cons hline .nil⟩
  | more line rest noNewline ih =>
      have hline := scanned_classifyFrom whole before ('\n' :: rest) (Text.isPlace_zero line)
      obtain ⟨parts, hparts, hall⟩ := ih (before ++ line ++ ['\n'])
      have htext : before ++ line ++ ['\n'] ++ rest = before ++ (line ++ '\n' :: rest) := by simp
      have hlength : (before ++ line ++ ['\n']).length = before.length + line.length + 1 := by
        simp [Nat.add_assoc]
      rw [htext, hlength] at hall
      rw [hlength] at hparts
      rw [List.append_assoc] at hline
      rw [Text.lines_append, Text.lines_of_not_mem noNewline, List.singleton_append, classifyLines,
        Text.numbered, hparts]
      exact ⟨_ :: parts, rfl, .cons hline hall⟩

/-- The spans of a text are those of its lines, and the spans of each line are scanned: from the end
of one span to the next, the match that starts first is taken, of the earliest rule that has one
there. -/
theorem scanned_classify (c : Classifier) (text : String)
    (whole : ∀ r ∈ c.rules, r.group = none) :
    ∃ parts, c.classify text = parts.flatten
      ∧ List.Forall₂ (fun line spans => Scanned c.rules text.toList line.1 line.2 0 spans)
        (Text.numbered 0 (Text.lines text.toList)) parts :=
  scanned_classifyLines whole text.toList []

/-- Empty matches of the rule in front do not hide the matches of the other, and characters of two
bytes count once, also on the second line. -/
theorem scanned_classify_multibyte :
    ∃ c, ofTable .standard [("x*", .variableName), ("y", .constant)] = .ok c
      ∧ (∀ r ∈ c.rules, r.group = none)
      ∧ c.classify "éy\néxyx" = [⟨1, 2, .constant⟩, ⟨4, 5, .variableName⟩, ⟨5, 6, .constant⟩,
        ⟨6, 7, .variableName⟩]
      ∧ ∃ parts, c.classify "éy\néxyx" = parts.flatten
        ∧ List.Forall₂ (fun line spans => Scanned c.rules "éy\néxyx".toList line.1 line.2 0 spans)
          (Text.numbered 0 (Text.lines "éy\néxyx".toList)) parts := by
  have hcompiled : (ofTable .standard [("x*", .variableName), ("y", .constant)]).toOption.map
        (fun c => (c.rules.map (·.group), c.classify "éy\néxyx"))
      = some ([none, none], [⟨1, 2, .constant⟩, ⟨4, 5, .variableName⟩, ⟨5, 6, .constant⟩,
        ⟨6, 7, .variableName⟩]) := by
    decide +kernel
  cases hc : ofTable .standard [("x*", .variableName), ("y", .constant)] with
  | error pattern =>
      rw [hc] at hcompiled
      cases hcompiled
  | ok c =>
      rw [hc] at hcompiled
      obtain ⟨hgroups, hspans⟩ := Prod.mk.inj (Option.some.inj hcompiled)
      have whole : ∀ r ∈ c.rules, r.group = none := by
        intro r hr
        have hmem := List.mem_map_of_mem (f := Rule.group) hr
        rw [hgroups] at hmem
        simpa using hmem
      exact ⟨c, rfl, whole, hspans, scanned_classify c _ whole⟩

end Classifier

end SurfaceBridge
