import Mathlib
import SurfaceBridge.Rpc.Line

set_option autoImplicit false

/-! # Frames queued on a line

What the functions on lines do, seen through `framesAt`, the frames that a line has accepted.
`Queued l fs a b` says that `b` comes from `a` by queueing `fs` on line `l` and nothing anywhere
else. A line whose reader never stops is `Lasting`; `keepReading` makes it so, which is how a
run is compared with one in which the reader had not gone away.
-/

namespace SurfaceBridge

namespace Rpc

namespace Lines

/-- The frames that a line has accepted, the oldest first. -/
def framesAt (l : Nat) (lines : Lines) : List Frame :=
  match lines[l]? with
  | none => []
  | some line => line.frames

theorem framesAt_eq {l : Nat} {lines : Lines} {line : Line} (h : lines[l]? = some line) :
    lines.framesAt l = line.frames := by
  simp [framesAt, h]

theorem framesAt_congr {l : Nat} {lines lines' : Lines} (h : lines'[l]? = lines[l]?) :
    lines'.framesAt l = lines.framesAt l := by
  simp [framesAt, h]

theorem framesAt_of_length_le {l : Nat} {lines : Lines} (h : lines.length ≤ l) :
    lines.framesAt l = [] := by
  simp [framesAt, List.getElem?_eq_none h]

/-- A new line is empty, and the other lines stay as they are. -/
theorem framesAt_openLine (l id : Nat) (room : Option Nat) (lines : Lines) :
    (lines.openLine id room).2.framesAt l = lines.framesAt l := by
  -- an older line, the new one, or none at all
  rcases Nat.lt_trichotomy l lines.length with hlt | heq | hgt
  · exact framesAt_congr (List.getElem?_append_left hlt)
  · subst heq
    rw [framesAt_of_length_le (Nat.le_refl _)]
    simp [openLine, framesAt]
  · rw [framesAt_of_length_le (Nat.le_of_lt hgt), framesAt_of_length_le]
    simp only [openLine, List.length_append, List.length_singleton]
    omega

theorem framesAt_stopReading (l id : Nat) (lines : Lines) :
    (lines.stopReading id).framesAt l = lines.framesAt l := by
  simp only [framesAt, stopReading, List.getElem?_map]
  cases lines[l]? with
  | none => rfl
  | some line =>
      by_cases h : line.id = id <;> simp [h]

@[simp] theorem length_openLine (id : Nat) (room : Option Nat) (lines : Lines) :
    (lines.openLine id room).2.length = lines.length + 1 := by
  simp [openLine]

@[simp] theorem length_stopReading (id : Nat) (lines : Lines) :
    (lines.stopReading id).length = lines.length := by
  simp [stopReading]

/-! ## Queueing -/

/-- `after` comes from `before` by queueing `fs` on line `l`. -/
structure Queued (l : Nat) (fs : List Frame) (before after : Lines) : Prop where
  length : after.length = before.length
  frames : after.framesAt l = before.framesAt l ++ fs
  others : ∀ m, m ≠ l → after[m]? = before[m]?

namespace Queued

variable {l : Nat} {fs gs : List Frame} {a b c : Lines}

theorem refl (l : Nat) (a : Lines) : Queued l [] a a :=
  ⟨rfl, (List.append_nil _).symm, fun _ _ => rfl⟩

theorem trans (h : Queued l fs a b) (k : Queued l gs b c) : Queued l (fs ++ gs) a c where
  length := k.length.trans h.length
  frames := by rw [k.frames, h.frames, List.append_assoc]
  others m hm := (k.others m hm).trans (h.others m hm)

theorem framesAt_of_ne (h : Queued l fs a b) {m : Nat} (hm : m ≠ l) :
    b.framesAt m = a.framesAt m :=
  framesAt_congr (h.others m hm)

/-- What comes on top of any line is of what has been queued. -/
theorem exists_framesAt (h : Queued l fs a b) (m : Nat) :
    ∃ gs, gs ⊆ fs ∧ b.framesAt m = a.framesAt m ++ gs := by
  by_cases hm : m = l
  · subst hm
    exact ⟨fs, List.Subset.refl _, h.frames⟩
  · exact ⟨[], List.nil_subset _, by rw [h.framesAt_of_ne hm, List.append_nil]⟩

end Queued

theorem send_eq_some {c : Connection} {f : Frame} {lines lines' : Lines} :
    lines.send c f = some lines' ↔
      ∃ line, lines[c.line]? = some line ∧ line.isRead = true
        ∧ lines' = lines.set c.line (line.accept f) := by
  unfold send
  constructor
  · intro h
    split at h
    · cases h
    · rename_i line hl
      split at h
      · rename_i hr
        exact ⟨line, hl, hr, (Option.some.inj h).symm⟩
      · cases h
  · rintro ⟨line, hl, hr, rfl⟩
    simp [hl, hr]

theorem lt_length_of_send {c : Connection} {f : Frame} {lines lines' : Lines}
    (h : lines.send c f = some lines') : c.line < lines.length := by
  obtain ⟨line, hl, -, -⟩ := send_eq_some.1 h
  exact (List.getElem?_eq_some_iff.1 hl).1

theorem queued_of_send {c : Connection} {f : Frame} {lines lines' : Lines}
    (h : lines.send c f = some lines') : Queued c.line [f] lines lines' := by
  have hlt := lt_length_of_send h
  obtain ⟨line, hl, -, rfl⟩ := send_eq_some.1 h
  refine ⟨List.length_set, ?_, fun m hm => List.getElem?_set_ne (Ne.symm hm)⟩
  rw [framesAt_eq (List.getElem?_set_self hlt), framesAt_eq hl, Line.accept]

/-! ## Readers that never stop -/

/-- A line that is there and has no end of room. -/
def Lasting (l : Nat) (lines : Lines) : Prop := ∃ line, lines[l]? = some line ∧ line.room = none

theorem Lasting.lt_length {l : Nat} {lines : Lines} (h : Lasting l lines) :
    l < lines.length := by
  obtain ⟨line, hl, -⟩ := h
  exact (List.getElem?_eq_some_iff.1 hl).1

theorem Lasting.isRead {line : Line} (h : line.room = none) : line.isRead = true := by
  simp [Line.isRead, h]

/-- A lasting line accepts every frame and goes on lasting. -/
theorem Lasting.send {c : Connection} {lines : Lines} (h : Lasting c.line lines) (f : Frame) :
    ∃ lines', lines.send c f = some lines' ∧ Lasting c.line lines' := by
  have hlt := h.lt_length
  obtain ⟨line, hl, hr⟩ := h
  refine ⟨_, send_eq_some.2 ⟨line, hl, Lasting.isRead hr, rfl⟩, line.accept f, ?_, ?_⟩
  · exact List.getElem?_set_self hlt
  · simp [Line.accept, hr]

/-- Lines go on lasting whatever is queued on them. -/
theorem Lasting.of_send {l : Nat} {c : Connection} {f : Frame} {lines lines' : Lines}
    (h : Lasting l lines) (sent : lines.send c f = some lines') : Lasting l lines' := by
  by_cases hl : c.line = l
  · subst hl
    obtain ⟨after, hsend, hlast⟩ := h.send f
    rw [sent] at hsend
    cases hsend
    exact hlast
  · obtain ⟨line, hline, hroom⟩ := h
    exact ⟨line, ((queued_of_send sent).others l (Ne.symm hl)).trans hline, hroom⟩

/-- The reader of a line will never stop. -/
def keepReading (l : Nat) (lines : Lines) : Lines :=
  lines.modify l fun line => { line with room := none }

@[simp] theorem length_keepReading (l : Nat) (lines : Lines) :
    (lines.keepReading l).length = lines.length := by
  simp [keepReading]

theorem getElem?_keepReading (l m : Nat) (lines : Lines) :
    (lines.keepReading l)[m]?
      = (lines[m]?).map fun line => if l = m then { line with room := none } else line := by
  rw [keepReading, List.getElem?_modify]
  cases lines[m]? with
  | none => rfl
  | some line =>
      by_cases h : l = m <;> simp [h]

@[simp] theorem framesAt_keepReading (l m : Nat) (lines : Lines) :
    (lines.keepReading l).framesAt m = lines.framesAt m := by
  rw [framesAt, framesAt, getElem?_keepReading]
  cases lines[m]? with
  | none => rfl
  | some line =>
      by_cases h : l = m <;> simp [h]

theorem lasting_keepReading {l : Nat} {lines : Lines} (h : l < lines.length) :
    Lasting l (lines.keepReading l) := by
  refine ⟨{ lines[l] with room := none }, ?_, rfl⟩
  rw [getElem?_keepReading, List.getElem?_eq_getElem h]
  simp

theorem keepReading_set (l m : Nat) (line : Line) (lines : Lines) :
    keepReading l (lines.set m line)
      = (lines.keepReading l).set m (if l = m then { line with room := none } else line) := by
  -- the two agree position by position, inside the list and behind it
  apply List.ext_getElem?
  intro i
  rw [getElem?_keepReading, List.getElem?_set, List.getElem?_set, length_keepReading,
    getElem?_keepReading]
  by_cases hm : m = i
  · subst hm
    by_cases hlt : m < lines.length <;> simp [hlt]
  · simp [hm]

/-- What a line accepts it also accepts if the reader of a line will never stop. -/
theorem send_keepReading {c : Connection} {f : Frame} {lines lines' : Lines} (l : Nat)
    (h : lines.send c f = some lines') :
    (lines.keepReading l).send c f = some (lines'.keepReading l) := by
  obtain ⟨line, hl, hr, rfl⟩ := send_eq_some.1 h
  refine send_eq_some.2 ⟨if l = c.line then { line with room := none } else line, ?_, ?_, ?_⟩
  · rw [getElem?_keepReading, hl]
    rfl
  · by_cases hc : l = c.line
    · simp [hc, Line.isRead]
    · simp [hc, hr]
  · rw [keepReading_set]
    by_cases hc : l = c.line <;> simp [hc, Line.accept]

end Lines

end Rpc

end SurfaceBridge
