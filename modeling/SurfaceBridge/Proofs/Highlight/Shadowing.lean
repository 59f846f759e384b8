import SurfaceBridge.Proofs.Highlight.Finding

set_option autoImplicit false

/-! # Rules that are never taken

Two rules with the same pattern find matches at the same places, whatever their classes and groups
are. Of two findings that start at one place the earlier rule is taken, so the later one of the two
rules never is, and a table may do without it (`shadowed_classify`).

`prefer` chooses between two findings. It is associative, so the rules of a table may be grouped in
any way (`leftmost_append`), and a rule can be taken out of the middle.
-/

namespace SurfaceBridge

/-- A rule that an engine makes of the text of a pattern. -/
def Rule.IsCompiled (engine : Pattern.Engine) (r : Rule) : Prop :=
  ∃ pattern kind group, Rule.compile? engine pattern kind group = some r

namespace Rule

variable {engine : Pattern.Engine} {q r : Rule} {line : List Char} {place : Nat}

theorem IsCompiled.compile_eq (h : r.IsCompiled engine) :
    engine.compile? r.pattern.text = some r.pattern := by
  obtain ⟨pattern, kind, group, hr⟩ := h
  obtain ⟨p, hp, rfl⟩ := Option.map_eq_some_iff.1 hr
  rw [engine.text_of_compile? hp, hp]

/-- The text of a pattern says all about it. -/
theorem IsCompiled.pattern_eq (hq : q.IsCompiled engine) (hr : r.IsCompiled engine)
    (same : q.pattern.text = r.pattern.text) : q.pattern = r.pattern := by
  have hcompile := hq.compile_eq
  rw [same, hr.compile_eq] at hcompile
  exact (Option.some.inj hcompile).symm

/-- Where a rule finds something depends on its pattern only. -/
theorem start_findAt (same : q.pattern = r.pattern) :
    (q.findAt line place).map (·.start) = (r.findAt line place).map (·.start) := by
  fun_induction r.findAt line place with
  | case1 place inside nothing => rw [findAt_of_le inside, same, nothing]
  | case2 place inside m found filled =>
      rw [findAt_of_le inside, same, found]
      simp [filled]
  | case3 place inside m found empty ih =>
      rw [findAt_of_le inside, same, found]
      simp only [dif_neg empty]
      exact ih
  | case4 place behind => rw [findAt, dif_neg behind]

end Rule

namespace Classifier

variable {line : List Char} {place : Nat}

/-- Of two findings the one that starts first, and the first one if both start there. -/
def prefer : Option (Finding × TokenClass) → Option (Finding × TokenClass) →
    Option (Finding × TokenClass)
  | none, other => other
  | some p, none => some p
  | some p, some q => if q.1.start < p.1.start then some q else some p

theorem prefer_none (p : Option (Finding × TokenClass)) : prefer p none = p := by
  cases p <;> rfl

theorem prefer_assoc (p q r : Option (Finding × TokenClass)) :
    prefer (prefer p q) r = prefer p (prefer q r) := by
  cases p with
  | none => rfl
  | some p =>
      cases q with
      | none => rfl
      | some q =>
          cases r with
          | none => simp only [prefer_none]
          -- the one that starts first is chosen on both sides
          | some r => grind [prefer]

/-- A finding that starts at or behind the one in front of it is not chosen. -/
theorem prefer_of_le {p q : Option (Finding × TokenClass)}
    (behind : ∀ g ∈ q, ∃ f ∈ p, f.1.start ≤ g.1.start) : prefer p q = p := by
  cases q with
  | none => exact prefer_none p
  | some g =>
      obtain ⟨f, hf, le⟩ := behind g rfl
      cases hf
      exact if_neg (Nat.not_lt.2 le)

theorem leftmost_cons (r : Rule) (rules : List Rule) :
    leftmost line place (r :: rules)
      = prefer ((r.findAt line place).map fun f => (f, r.kind)) (leftmost line place rules) := by
  rw [leftmost]
  cases r.findAt line place with
  | none => rfl
  | some f => cases leftmost line place rules <;> rfl

theorem leftmost_append (rules more : List Rule) :
    leftmost line place (rules ++ more)
      = prefer (leftmost line place rules) (leftmost line place more) := by
  induction rules with
  | nil => rfl
  | cons r rules ih => rw [List.cons_append, leftmost_cons, leftmost_cons, ih, prefer_assoc]

/-- What is taken starts no later than what any rule finds. -/
theorem exists_leftmost_le {rules : List Rule} {r : Rule} (hr : r ∈ rules) {f : Finding}
    (found : r.findAt line place = some f) :
    ∃ taken ∈ leftmost line place rules, taken.1.start ≤ f.start := by
  cases htaken : leftmost line place rules with
  | none =>
      rw [leftmost_eq_none.1 htaken r hr] at found
      cases found
  | some taken =>
      obtain ⟨before, q, after, rfl, -, h⟩ := exists_of_leftmost htaken
      exact ⟨taken, rfl, h.leftmost r hr f found⟩

/-- A rule with the pattern of a rule in front of it is not taken anywhere. -/
theorem leftmost_shadowed {before after : List Rule} {q r : Rule} (hr : r ∈ before)
    (same : q.pattern = r.pattern) :
    leftmost line place (before ++ q :: after) = leftmost line place (before ++ after) := by
  have hbehind : ∀ g ∈ (q.findAt line place).map fun f => (f, q.kind),
      ∃ f ∈ leftmost line place before, f.1.start ≤ g.1.start := by
    intro g hg
    obtain ⟨f, hf, rfl⟩ := Option.map_eq_some_iff.1 hg
    have hstart : (q.findAt line place).map (·.start) = (r.findAt line place).map (·.start) :=
      Rule.start_findAt same
    rw [hf, Option.map_some] at hstart
    obtain ⟨f', hf', heq⟩ := Option.map_eq_some_iff.1 hstart.symm
    obtain ⟨taken, htaken, hle⟩ := exists_leftmost_le hr hf'
    exact ⟨taken, htaken, Nat.le_trans hle (Nat.le_of_eq heq)⟩
  rw [leftmost_append, leftmost_cons, ← prefer_assoc, prefer_of_le hbehind, ← leftmost_append]

/-- Rules that take the same everywhere give a text the same spans. -/
theorem classifyFrom_congr {rules rules' : List Rule}
    (same : ∀ place, leftmost line place rules' = leftmost line place rules) (offset place : Nat) :
    classifyFrom rules' offset line place = classifyFrom rules offset line place := by
  fun_induction classifyFrom rules offset line place with
  | case1 place inside nothing => rw [classifyFrom_of_lt _ inside, same, nothing]
  | case2 place inside f kind found ih => rw [← ih, classifyFrom_of_lt _ inside, same, found]
  | case3 place behind => rw [classifyFrom, dif_neg behind]

theorem classifyLines_congr {rules rules' : List Rule}
    (same : ∀ line place, leftmost line place rules' = leftmost line place rules) (offset : Nat)
    (lines : List (List Char)) :
    classifyLines rules' offset lines = classifyLines rules offset lines := by
  induction lines generalizing offset with
  | nil => rfl
  | cons line lines ih => rw [classifyLines, classifyLines, ih, classifyFrom_congr (same line)]

/-- A table may do without a rule of which the pattern occurs in an earlier rule. -/
theorem shadowed_classify (engine : Pattern.Engine) (c : Classifier)
    (compiled : ∀ r ∈ c.rules, r.IsCompiled engine) {i j : Nat} (earlier : i < j) {r q : Rule}
    (hr : c.rules[i]? = some r) (hq : c.rules[j]? = some q)
    (same : q.pattern.text = r.pattern.text) (text : String) :
    (Classifier.mk (c.rules.eraseIdx j)).classify text = c.classify text := by
  have hpattern : q.pattern = r.pattern :=
    (compiled q (List.mem_of_getElem? hq)).pattern_eq (compiled r (List.mem_of_getElem? hr)) same
  obtain ⟨hj, hq⟩ := List.getElem?_eq_some_iff.1 hq
  have hbefore : r ∈ c.rules.take j := by
    rw [← List.getElem?_take_of_lt earlier] at hr
    exact List.mem_of_getElem? hr
  have hsplit : c.rules = c.rules.take j ++ q :: c.rules.drop (j + 1) := by
    rw [← hq, List.getElem_cons_drop, List.take_append_drop]
  refine classifyLines_congr (fun line place => ?_) 0 _
  rw [List.eraseIdx_eq_take_drop_succ, ← leftmost_shadowed hbefore hpattern, ← hsplit]

/-- A rule for one group of a pattern does nothing behind a rule for all of it. -/
theorem shadowed_classify_group :
    ∃ r z q, Rule.compile? .standard "x*(y)" .keyword none = some r
      ∧ Rule.compile? .standard "z|é" .number none = some z
      ∧ Rule.compile? .standard "x*(y)" .comment (some 1) = some q
      ∧ (Classifier.mk [r, z, q]).classify "éxy\nyz"
        = [⟨0, 1, .number⟩, ⟨1, 3, .keyword⟩, ⟨4, 5, .keyword⟩, ⟨5, 6, .number⟩]
      ∧ (Classifier.mk [z, q]).classify "éxy\nyz"
        = [⟨0, 1, .number⟩, ⟨2, 3, .comment⟩, ⟨4, 5, .comment⟩, ⟨5, 6, .number⟩]
      ∧ (Classifier.mk [r, z]).classify "éxy\nyz" = (Classifier.mk [r, z, q]).classify "éxy\nyz" := by
  have hspans : (Rule.compile? .standard "x*(y)" .keyword none).bind (fun r =>
        (Rule.compile? .standard "z|é" .number none).bind fun z =>
          (Rule.compile? .standard "x*(y)" .comment (some 1)).map fun q =>
            ((Classifier.mk [r, z, q]).classify "éxy\nyz",
              (Classifier.mk [z, q]).classify "éxy\nyz", decide (q.pattern.text = r.pattern.text)))
      = some (([⟨0, 1, .number⟩, ⟨1, 3, .keyword⟩, ⟨4, 5, .keyword⟩, ⟨5, 6, .number⟩],
        [⟨0, 1, .number⟩, ⟨2, 3, .comment⟩, ⟨4, 5, .comment⟩, ⟨5, 6, .number⟩], true) :
        List TokenSpan × List TokenSpan × Bool) := by
    decide +kernel
  obtain ⟨r, hr, hspans⟩ := Option.bind_eq_some_iff.1 hspans
  obtain ⟨z, hz, hspans⟩ := Option.bind_eq_some_iff.1 hspans
  obtain ⟨q, hq, hspans⟩ := Option.map_eq_some_iff.1 hspans
  obtain ⟨hall, hspans⟩ := Prod.mk.inj hspans
  obtain ⟨hothers, hsame⟩ := Prod.mk.inj hspans
  have hcompiled : ∀ s ∈ [r, z, q], s.IsCompiled .standard := by
    intro s hs
    rcases List.mem_cons.1 hs with rfl | hs
    · exact ⟨_, _, _, hr⟩
    · rcases List.mem_cons.1 hs with rfl | hs
      · exact ⟨_, _, _, hz⟩
      · exact List.mem_singleton.1 hs ▸ ⟨_, _, _, hq⟩
  exact ⟨r, z, q, hr, hz, hq, hall, hothers,
    shadowed_classify .standard ⟨[r, z, q]⟩ hcompiled (by decide : 0 < 2) rfl rfl (of_decide_eq_true hsame) _⟩

end Classifier

end SurfaceBridge
