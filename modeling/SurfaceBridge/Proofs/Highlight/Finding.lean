import SurfaceBridge.Highlight.Classifier
import SurfaceBridge.Proofs.Pattern.Bounds

set_option autoImplicit false

/-! # What the rules find

`First` describes the first match of a pattern that is not empty, on its own and not through the
rules: search, and behind an empty match search again one character further on. A rule finds the
match that is `First` from a place, and nothing if there is none (`first_iff_findAt`).

Of several rules the one is taken whose match starts first, and of those that start there the
earliest (`exists_of_leftmost`). What it gives a class is a piece of the line (`spanOf_eq`).
-/

namespace SurfaceBridge

open Text (IsPlace byteLength column)

/-- The first match of a pattern in a line that is not empty, from a place on. Behind an empty match
the pattern is searched for again, one character further on. -/
inductive Pattern.First (p : Pattern) (line : List Char) : Nat → Nat → Nat → Prop where
  | here {place : Nat} {m : Match} (found : p.findAt line place = some m)
      (filled : m.start < m.stop) : First p line place m.start m.stop
  | later {place start stop : Nat} {m : Match} {front rest : List Char} {c : Char}
      (found : p.findAt line place = some m) (empty : m.stop ≤ m.start)
      (split : line = front ++ c :: rest) (front_place : byteLength front = m.start)
      (first : First p line (byteLength (front ++ [c])) start stop) :
      First p line place start stop

/-- A finding in a line, from a place on. -/
structure Finding.Inside (line : List Char) (place : Nat) (f : Finding) : Prop where
  le_start : place ≤ f.start
  isPlace_start : IsPlace line f.start
  isPlace_stop : IsPlace line f.stop
  part : ∀ start stop, f.part = some (start, stop) →
    IsPlace line start ∧ IsPlace line stop ∧ f.start ≤ start ∧ stop ≤ f.stop

/-- The next place is behind one more character, or not in the line any more. -/
theorem nextPlace_cases {line : List Char} {place : Nat} (h : IsPlace line place) :
    nextPlace line place = byteLength line + 1
      ∨ ∃ front c rest, line = front ++ c :: rest ∧ byteLength front = place
        ∧ nextPlace line place = byteLength (front ++ [c]) := by
  obtain ⟨front, rest, rfl, rfl⟩ := h
  rw [nextPlace, Text.dropBytes_append]
  cases rest with
  | nil => exact Or.inl rfl
  | cons c rest => exact Or.inr ⟨front, c, rest, rfl, rfl, by simp⟩

namespace Rule

variable {r : Rule} {line : List Char} {place : Nat}

theorem findAt_behind (h : byteLength line < place) : r.findAt line place = none := by
  rw [findAt, dif_neg (by omega)]

/-- What a rule finds is what its pattern finds, once this is not empty. -/
theorem findAt_of_le (h : place ≤ byteLength line) :
    r.findAt line place =
      match r.pattern.findAt line place with
      | none => none
      | some m =>
        if h : m.start < m.stop then some ⟨m.start, m.stop, m.group (r.group.getD 0), h⟩
        else r.findAt line (nextPlace line m.start) := by
  rw [findAt, dif_pos h]
  split <;> simp_all

/-- A rule finds the first match that is not empty. -/
theorem exists_of_findAt (h : IsPlace line place) {f : Finding}
    (found : r.findAt line place = some f) :
    ∃ m : Pattern.Match, m.Inside line place ∧ r.pattern.First line place m.start m.stop
      ∧ f.start = m.start ∧ f.stop = m.stop ∧ f.part = m.group (r.group.getD 0) := by
  fun_induction r.findAt line place with
  | case1 => cases found
  | case2 place _ m hm filled =>
      cases found
      exact ⟨m, Pattern.inside_findAt h hm, .here hm filled, rfl, rfl, rfl⟩
  | case3 place _ m hm notFilled ih =>
      have inside := Pattern.inside_findAt h hm
      -- the match is empty, so the rule goes on behind one more character if there is one
      rcases nextPlace_cases inside.isPlace_start with hend | ⟨front, c, rest, hline, hfront, hnext⟩
      · rw [hend, findAt_behind (Nat.lt_succ_self _)] at found
        cases found
      · have hplace : IsPlace line (nextPlace line m.start) :=
          ⟨front ++ [c], rest, by simp [hline], hnext.symm⟩
        obtain ⟨m', inside', first, hf⟩ := ih hplace found
        have hle : place ≤ m'.start := by
          have hforward : m.start < nextPlace line m.start :=
            lt_nextPlace inside.isPlace_start.le (Nat.le_refl _)
          have := inside.le_start
          have := inside'.le_start
          omega
        rw [hnext] at first
        exact ⟨m', { inside' with le_start := hle },
          .later hm (Nat.not_lt.1 notFilled) hline hfront first, hf⟩
  | case4 => cases found

theorem inside_findAt (h : IsPlace line place) {f : Finding}
    (found : r.findAt line place = some f) : f.Inside line place := by
  obtain ⟨m, inside, -, hstart, hstop, hpart⟩ := exists_of_findAt h found
  refine ⟨hstart ▸ inside.le_start, hstart ▸ inside.isPlace_start, hstop ▸ inside.isPlace_stop,
    fun start stop hgroup => ?_⟩
  rw [hpart] at hgroup
  rw [hstart, hstop]
  exact inside.group hgroup

/-- Without a group the whole match gets the class. -/
theorem part_of_findAt (h : IsPlace line place) (whole : r.group = none) {f : Finding}
    (found : r.findAt line place = some f) : f.part = some (f.start, f.stop) := by
  obtain ⟨m, -, -, hstart, hstop, hpart⟩ := exists_of_findAt h found
  rw [hpart, hstart, hstop, whole]
  rfl

theorem exists_findAt_of_first {p : Pattern} {start stop : Nat} (h : IsPlace line place)
    (first : p.First line place start stop) (hp : r.pattern = p) :
    ∃ f, r.findAt line place = some f ∧ f.start = start ∧ f.stop = stop := by
  induction first with
  | here found filled =>
      rw [findAt_of_le h.le, hp, found]
      exact ⟨_, dif_pos filled, rfl, rfl⟩
  | @later place start stop m front rest c found empty split front_place first ih =>
      have hnext : nextPlace line m.start = byteLength (front ++ [c]) := by
        rw [← front_place, split, nextPlace, Text.dropBytes_append]
        simp
      obtain ⟨f, hf, hplaces⟩ := ih ⟨front ++ [c], rest, by simp [split], rfl⟩
      refine ⟨f, ?_, hplaces⟩
      rw [findAt_of_le h.le, hp, found]
      dsimp only
      rw [dif_neg (Nat.not_lt.2 empty), hnext, hf]

/-- A match is the first that is not empty exactly if the rule finds it. -/
theorem first_iff_findAt (h : IsPlace line place) {start stop : Nat} :
    r.pattern.First line place start stop
      ↔ ∃ f, r.findAt line place = some f ∧ f.start = start ∧ f.stop = stop := by
  refine ⟨fun first => exists_findAt_of_first h first rfl, ?_⟩
  rintro ⟨f, hf, rfl, rfl⟩
  obtain ⟨m, -, first, hstart, hstop, -⟩ := exists_of_findAt h hf
  rwa [hstart, hstop]

end Rule

namespace Classifier

variable {rules : List Rule} {line : List Char} {place : Nat}

theorem leftmost_eq_none :
    leftmost line place rules = none ↔ ∀ r ∈ rules, r.findAt line place = none := by
  induction rules with
  | nil => simp [leftmost]
  | cons r rs ih =>
      rw [leftmost, List.forall_mem_cons, ← ih]
      cases r.findAt line place with
      | none => simp
      | some f =>
          cases leftmost line place rs with
          | none => simp
          | some p =>
              dsimp only
              split <;> simp

/-- A rule between others is the one that is taken: no rule finds something that starts earlier, and
no rule in front of it finds something that starts there. -/
structure Taken (line : List Char) (place : Nat) (before : List Rule) (r : Rule)
    (after : List Rule) (f : Finding) : Prop where
  found : r.findAt line place = some f
  leftmost : ∀ q ∈ before ++ r :: after, ∀ g, q.findAt line place = some g → f.start ≤ g.start
  earliest : ∀ q ∈ before, ∀ g, q.findAt line place = some g → f.start < g.start

namespace Taken

variable {before after : List Rule} {r q : Rule} {f : Finding}

/-- One more rule in front, which finds nothing that starts as early. -/
theorem cons (h : Taken line place before r after f)
    (later : ∀ g, q.findAt line place = some g → f.start < g.start) :
    Taken line place (q :: before) r after f where
  found := h.found
  leftmost := List.forall_mem_cons.2 ⟨fun g hg => Nat.le_of_lt (later g hg), h.leftmost⟩
  earliest := List.forall_mem_cons.2 ⟨later, h.earliest⟩

/-- The first rule, if the others find nothing that starts earlier. -/
theorem head (found : r.findAt line place = some f)
    (others : ∀ q ∈ after, ∀ g, q.findAt line place = some g → f.start ≤ g.start) :
    Taken line place [] r after f where
  found := found
  leftmost := by
    refine List.forall_mem_cons.2 ⟨fun g hg => ?_, others⟩
    rw [found] at hg
    cases hg
    exact Nat.le_refl _
  earliest := by simp

end Taken

theorem exists_of_leftmost {f : Finding} {kind : TokenClass}
    (h : leftmost line place rules = some (f, kind)) :
    ∃ before r after, rules = before ++ r :: after ∧ r.kind = kind
      ∧ Taken line place before r after f := by
  induction rules generalizing f kind with
  | nil => cases h
  | cons r rs ih =>
      rw [leftmost] at h
      -- the first rule finds nothing, or something behind what the others find, or it is taken
      split at h
      · rename_i hr
        obtain ⟨before, q, after, rfl, hkind, taken⟩ := ih h
        refine ⟨r :: before, q, after, rfl, hkind, taken.cons fun g hg => ?_⟩
        rw [hr] at hg
        cases hg
      · rename_i hr hrs
        cases h
        refine ⟨[], r, rs, rfl, rfl, .head hr fun q hq g hg => ?_⟩
        rw [leftmost_eq_none.1 hrs q hq] at hg
        cases hg
      · rename_i g hr hrs
        split at h
        · rename_i hlt
          cases h
          obtain ⟨before, q, after, rfl, hkind, taken⟩ := ih hrs
          refine ⟨r :: before, q, after, rfl, hkind, taken.cons fun g' hg' => ?_⟩
          rw [hr] at hg'
          cases hg'
          exact hlt
        · rename_i hle
          cases h
          obtain ⟨before, q, after, rfl, -, taken⟩ := ih hrs
          exact ⟨[], r, _, rfl, rfl, .head hr fun q' hq' g' hg' =>
            Nat.le_trans (Nat.not_lt.1 hle) (taken.leftmost q' hq' g' hg')⟩

/-- What is taken at a place of a line comes first, and the rest is classified behind it. -/
theorem classifyFrom_of_lt (offset : Nat) (h : place < byteLength line) :
    classifyFrom rules offset line place =
      match leftmost line place rules with
      | none => []
      | some (f, kind) =>
        spanOf offset line kind f.part ++ classifyFrom rules offset line f.stop := by
  rw [classifyFrom, dif_pos h]
  split <;> simp_all

/-- A piece of a line between two places is a span from column to column. -/
theorem spanOf_eq {start stop : Nat} (hstart : IsPlace line start) (hstop : IsPlace line stop)
    (lt : start < stop) (offset : Nat) (kind : TokenClass) :
    spanOf offset line kind (some (start, stop))
      = [⟨offset + column line start, offset + column line stop, kind⟩] := by
  rw [spanOf, if_pos ⟨lt, hstop.le⟩]
  dsimp only
  rw [← Text.length_takeBytes_dropBytes hstart hstop (Nat.le_of_lt lt)]
  rfl

end Classifier

end SurfaceBridge
