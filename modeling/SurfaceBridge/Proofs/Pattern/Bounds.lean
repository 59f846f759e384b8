import SurfaceBridge.Pattern.Search
import SurfaceBridge.Proofs.Text.Columns

set_option autoImplicit false

/-! # Where matches lie

A search reports a match that lies in the text it was given, and all places in the slots of the
match lie in the match. This holds for every program: a thread records only places that it has
passed since it started, and `Thread.Within` says so of a thread at some position. Each part of
the search keeps it, so a whole run does.

In a line (`inside_findAt`) the match starts at the place where the search started or behind it, and
all its places are between two characters of the line.
-/

namespace SurfaceBridge

namespace Pattern

/-! ## Threads -/

/-- A thread that started at or before a position, with all places in its slots in between. -/
structure Thread.Within (position : Nat) (t : Thread) : Prop where
  start : t.start ≤ position
  slots : ∀ s ∈ t.slots, t.start ≤ s.2 ∧ s.2 ≤ position

namespace Thread.Within

variable {position : Nat} {t : Thread}

theorem goto (h : t.Within position) (address : Nat) : (t.goto address).Within position :=
  ⟨h.start, h.slots⟩

theorem save (h : t.Within position) (slot : Nat) : (t.save slot position).Within position where
  start := h.start
  slots s hs := by
    rcases List.mem_cons.1 hs with rfl | hs
    · exact ⟨h.start, Nat.le_refl _⟩
    · exact h.slots s (List.mem_of_mem_filter hs)

/-- Time goes on. -/
theorem next (h : t.Within position) : t.Within (position + 1) where
  start := Nat.le_succ_of_le h.start
  slots s hs := ⟨(h.slots s hs).1, Nat.le_succ_of_le (h.slots s hs).2⟩

theorem follow (h : t.Within position) (before after : Option Char) (i : Instr) :
    ∀ u ∈ i.follow before after position t, u.Within position := by
  intro u hu
  cases i with
  | accept => cases hu
  | set members next => cases hu
  | look kind next =>
      simp only [Instr.follow] at hu
      split at hu
      · rw [List.mem_singleton.1 hu]
        exact h.goto next
      · cases hu
  | save slot next =>
      rw [List.mem_singleton.1 hu]
      exact (h.save slot).goto next
  | split nexts =>
      obtain ⟨next, -, rfl⟩ := List.mem_map.1 hu
      exact h.goto next

end Thread.Within

/-- A match in the first `limit` characters, with all places in its slots inside it. -/
structure Match.Within (limit : Nat) (m : Match) : Prop where
  start_le_stop : m.start ≤ m.stop
  stop_le : m.stop ≤ limit
  slots : ∀ s ∈ m.slots, m.start ≤ s.2 ∧ s.2 ≤ m.stop

theorem Match.Within.mono {limit limit' : Nat} {m : Match} (h : m.Within limit)
    (le : limit ≤ limit') : m.Within limit' :=
  ⟨h.start_le_stop, Nat.le_trans h.stop_le le, h.slots⟩

/-! ## Searching -/

namespace Program

variable (p : Program) {position : Nat}

theorem within_close (before after : Option Char) (fuel : Nat) {threads : List Thread}
    (h : ∀ t ∈ threads, t.Within position) (visited : Array Bool) :
    ∀ t ∈ p.close before after position fuel threads visited, t.Within position := by
  fun_induction p.close before after position fuel threads visited with
  | case1 => simp
  | case2 => simp
  | case3 fuel t ts visited _ ih => exact ih (List.forall_mem_cons.1 h).2
  | case4 fuel t ts visited _ _ ih => exact ih (List.forall_mem_cons.1 h).2
  | case5 fuel t ts visited _ i _ _ _ ih =>
      obtain ⟨ht, hts⟩ := List.forall_mem_cons.1 h
      exact List.forall_mem_cons.2 ⟨ht, ih hts⟩
  | case6 fuel t ts visited _ i _ _ _ ih =>
      obtain ⟨ht, hts⟩ := List.forall_mem_cons.1 h
      exact ih (List.forall_mem_append.2 ⟨ht.follow before after i, hts⟩)

theorem within_settle (before after : Option Char) {threads : List Thread} {best : Option Match}
    (h : ∀ t ∈ threads, t.Within position) (hbest : ∀ m ∈ best, m.Within position) :
    (∀ m ∈ (p.settle before after position threads best).1, m.Within position)
      ∧ ∀ t ∈ (p.settle before after position threads best).2, t.Within position := by
  have hstart : Thread.Within position ⟨p.start, position, []⟩ :=
    ⟨Nat.le_refl _, fun _ hs => by cases hs⟩
  have hall : ∀ t ∈ (if best.isSome then threads else threads ++ [⟨p.start, position, []⟩]),
      t.Within position := by
    split
    · exact h
    · exact List.forall_mem_append.2 ⟨h, fun t ht => List.mem_singleton.1 ht ▸ hstart⟩
  unfold settle
  dsimp only
  refine ⟨fun m hm => ?_, fun t ht => ?_⟩
  · split at hm
    · rename_i t hfound
      cases hm
      have ht := p.within_close before after _ hall _ t (List.mem_of_find?_eq_some hfound)
      exact ⟨ht.start, Nat.le_refl _, ht.slots⟩
    · exact hbest m hm
  · exact p.within_close before after _ hall _ t (List.takeWhile_subset _ ht)

theorem within_read {c : Char} {t u : Thread} (h : t.Within position)
    (read : p.read c t = some u) : u.Within position := by
  unfold Program.read at read
  split at read
  · split at read
    · cases read
      exact h.goto _
    · cases read
  · cases read

theorem within_run (text : List Char) (before : Option Char) {threads : List Thread}
    {best : Option Match} (h : ∀ t ∈ threads, t.Within position)
    (hbest : ∀ m ∈ best, m.Within position) :
    ∀ m ∈ p.run text before position threads best, m.Within (position + text.length) := by
  induction text generalizing before position threads best with
  | nil => exact (p.within_settle before none h hbest).1
  | cons c cs ih =>
      obtain ⟨hmatch, hthreads⟩ := p.within_settle before (some c) h hbest
      intro m hm
      rw [run] at hm
      dsimp only at hm
      split at hm
      · exact (hmatch m hm).mono (Nat.le_add_right _ _)
      · -- the threads that read the character are within the next position
        have hread : ∀ t ∈ (p.settle before (some c) position threads best).2.filterMap (p.read c),
            t.Within (position + 1) := by
          intro t ht
          obtain ⟨u, hu, hread⟩ := List.mem_filterMap.1 ht
          exact (p.within_read (hthreads u hu) hread).next
        have hnext := ih (some c) hread (fun m hm => (hmatch m hm).mono (Nat.le_succ _)) m hm
        rw [List.length_cons]
        exact hnext.mono (by omega)

end Program

theorem within_find {p : Pattern} {before : Option Char} {rest : List Char} {m : Match}
    (h : p.find before rest = some m) : m.Within rest.length := by
  have hthreads : ∀ t ∈ ([] : List Thread), t.Within 0 := fun _ ht => by cases ht
  have hbest : ∀ m ∈ (none : Option Match), m.Within 0 := fun _ hm => by cases hm
  have hrun := p.program.within_run rest before hthreads hbest m h
  exact hrun.mono (by omega)

/-! ## Lines -/

open Text (IsPlace byteLength)

/-- A match in a line that starts at a place or behind it, with all places in its slots inside
it. -/
structure Match.Inside (line : List Char) (place : Nat) (m : Match) : Prop where
  le_start : place ≤ m.start
  start_le_stop : m.start ≤ m.stop
  isPlace_start : IsPlace line m.start
  isPlace_stop : IsPlace line m.stop
  slots : ∀ s ∈ m.slots, m.start ≤ s.2 ∧ s.2 ≤ m.stop ∧ IsPlace line s.2

/-- A match that lies in the rest of a line lies in the line. -/
theorem Match.Within.inBytes {front rest : List Char} {m : Match} (h : m.Within rest.length) :
    (m.inBytes (byteLength front) rest).Inside (front ++ rest) (byteLength front) := by
  have place : ∀ n, IsPlace (front ++ rest) (byteLength front + byteLength (rest.take n)) := by
    intro n
    refine ⟨front ++ rest.take n, rest.drop n, ?_, by simp⟩
    rw [List.append_assoc, List.take_append_drop]
  -- more characters take more bytes
  have mono : ∀ {i j : Nat}, i ≤ j → byteLength (rest.take i) ≤ byteLength (rest.take j) := by
    intro i j le
    have hsplit := List.take_append_drop i (rest.take j)
    rw [List.take_take, Nat.min_eq_left le] at hsplit
    rw [← hsplit, Text.byteLength_append]
    exact Nat.le_add_right _ _
  refine ⟨Nat.le_add_right _ _, Nat.add_le_add_left (mono h.start_le_stop) _, place _, place _, ?_⟩
  intro s hs
  obtain ⟨t, ht, rfl⟩ := List.mem_map.1 hs
  obtain ⟨hstart, hstop⟩ := h.slots t ht
  exact ⟨Nat.add_le_add_left (mono hstart) _, Nat.add_le_add_left (mono hstop) _, place _⟩

/-- A match that is found in a line lies in it. -/
theorem inside_findAt {p : Pattern} {line : List Char} {place : Nat} {m : Match}
    (hplace : IsPlace line place) (h : p.findAt line place = some m) : m.Inside line place := by
  obtain ⟨front, rest, rfl, rfl⟩ := hplace
  unfold findAt at h
  rw [Text.dropBytes_append] at h
  obtain ⟨found, hfind, rfl⟩ := Option.map_eq_some_iff.1 h
  exact (within_find hfind).inBytes

theorem mem_of_lookup {index place : Nat} {slots : List (Nat × Nat)}
    (h : slots.lookup index = some place) : (index, place) ∈ slots := by
  obtain ⟨front, rest, rfl, -⟩ := List.lookup_eq_some_iff.1 h
  simp

/-- A group lies in its match. -/
theorem Match.Inside.group {line : List Char} {place : Nat} {m : Match} (h : m.Inside line place)
    {index start stop : Nat} (hgroup : m.group index = some (start, stop)) :
    IsPlace line start ∧ IsPlace line stop ∧ m.start ≤ start ∧ stop ≤ m.stop := by
  unfold Match.group at hgroup
  split at hgroup
  · cases hgroup
    exact ⟨h.isPlace_start, h.isPlace_stop, Nat.le_refl _, Nat.le_refl _⟩
  · split at hgroup
    · rename_i hstart hstop
      cases hgroup
      obtain ⟨le, -, hs⟩ := h.slots _ (mem_of_lookup hstart)
      obtain ⟨-, le', ht⟩ := h.slots _ (mem_of_lookup hstop)
      exact ⟨hs, ht, le, le'⟩
    · cases hgroup

end Pattern

end SurfaceBridge
