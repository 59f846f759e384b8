import SurfaceBridge.Proofs.Bridge.Run

set_option autoImplicit false

/-! # Handles to connections

A bridge holds handles to connections in its session and in the events that wait. A handle that
is given up never comes back: what is held after an action was held before, or belongs to a
connection that has just opened (`held_act`). Nothing is queued on a line without a handle to it
(`framesAt_act`).
-/

namespace SurfaceBridge

open Rpc (Connection)
open Rpc.Lines (Queued)

/-- The connection that an event opens. -/
def Event.connection? : Event → Option Connection
  | .opened c => some c
  | _ => none

/-- The connection that a signal opens, with the next free line. -/
def Signal.connection? (line : Nat) : Signal → Option Connection
  | .opened id _ => some ⟨id, line⟩
  | _ => none

/-- The connection that an action opens. -/
def Action.connection? (line : Nat) : Action → Option Connection
  | .signal s => s.connection? line
  | _ => none

/-- Putting events off and not reading them keeps their order and adds none. -/
theorem Session.Waited.sublist {id n : Nat} {events putOff unread : List Event}
    {answer : Except BridgeError Rpc.Message}
    (h : Waited id n events answer putOff unread) :
    (putOff ++ unread).Sublist events := by
  cases h with
  | answered split =>
      rw [split]
      exact List.filter_sublist.append (List.sublist_cons_self _ _)
  | refused split =>
      rw [split]
      exact List.filter_sublist.append (List.sublist_cons_self _ _)
  | ended split =>
      rw [split, List.append_assoc]
      exact List.filter_sublist.append (List.Sublist.refl _)
  | stopped split =>
      rw [split]
      exact List.filter_sublist.append (List.Sublist.refl _)

namespace Bridge

/-- The connections that wait to be handled. -/
def opening (b : Bridge) : List Connection := b.waiting.filterMap Event.connection?

/-- The handles of the bridge: that of the session, then those in the events that wait. -/
def held (b : Bridge) : List Connection :=
  (b.session.map (·.client.connection)).toList ++ b.opening

theorem holds_iff (b : Bridge) (l : Nat) :
    b.holds l = true ↔ l ∈ b.held.map Connection.line := by
  have hopens : ∀ e : Event, opens l e = true ↔ ∃ c, e.connection? = some c ∧ c.line = l := by
    intro e
    cases e <;> simp [opens, Event.connection?]
  have hany : ∀ events : List Event, events.any (opens l) = true
      ↔ l ∈ (events.filterMap Event.connection?).map Connection.line := by
    intro events
    simp only [List.any_eq_true, List.mem_map, List.mem_filterMap, hopens]
    constructor
    · rintro ⟨e, he, c, hc, hl⟩
      exact ⟨c, ⟨e, he, hc⟩, hl⟩
    · rintro ⟨c, ⟨e, he, hc⟩, hl⟩
      exact ⟨e, he, c, hc, hl⟩
  unfold holds held opening waiting
  rw [Bool.or_eq_true, Bool.or_eq_true, hany, hany, List.filterMap_append, List.map_append,
    List.map_append, List.mem_append, List.mem_append, or_assoc]
  cases b.session with
  | none => simp
  | some s => simp [eq_comm]

theorem mem_held_of_session {b : Bridge} {s : Session} (h : b.session = some s) :
    s.client.connection ∈ b.held := by
  simp [held, h]

theorem ne_line_of_not_mem_held {b : Bridge} {l : Nat} (hl : l ∉ b.held.map Connection.line) :
    ∀ s, b.session = some s → l ≠ s.line := by
  intro s hs he
  exact hl (List.mem_map.2 ⟨_, mem_held_of_session hs, he.symm⟩)

/-! ## Handles come from openings -/

@[simp] theorem held_told (b : Bridge) (e : Editor) (ns : List ClientNotification) :
    (b.told e ns).held = b.held := rfl

@[simp] theorem held_dispatch (b : Bridge) : b.dispatch.held = b.held := by
  rw [dispatch_eq_told, held_told]

/-- An event that arrives waits behind the others, or is lost. -/
theorem opening_push (e : Event) (b : Bridge) :
    ({ b with inbox := b.inbox.push e } : Bridge).opening.Sublist
      (b.opening ++ e.connection?.toList) := by
  unfold opening waiting Inbox.push
  cases b.inbox.hungUp with
  | true => exact List.sublist_append_left _ _
  | false =>
      show ((b.backlog ++ (b.inbox.events ++ [e])).filterMap Event.connection?).Sublist _
      rw [← List.append_assoc, List.filterMap_append]
      cases hc : e.connection? <;> simp [hc]

theorem opening_receive (s : Signal) (b : Bridge) :
    (b.receive s).opening.Sublist (b.opening ++ (s.connection? b.lines.length).toList) := by
  cases s with
  | message id text => exact opening_push (.message id text) b
  | closed id => exact opening_push (.closed id) b
  | opened id room => exact opening_push (.opened ⟨id, b.lines.length⟩) b

theorem held_receive (s : Signal) (b : Bridge) :
    (b.receive s).held.Sublist (b.held ++ (s.connection? b.lines.length).toList) := by
  have hsession : (b.receive s).session = b.session := by
    cases s <;> rfl
  rw [held, held, hsession, List.append_assoc]
  exact (List.Sublist.refl _).append (opening_receive s b)

/-- The handles before and after the next event is taken out. -/
theorem held_of_next {b taken : Bridge} {e : Event} (next : b.nextEvent = some (e, taken)) :
    b.held = (b.session.map (·.client.connection)).toList ++ e.connection?.toList
        ++ taken.opening
      ∧ taken.session = b.session := by
  constructor
  · rw [held, opening, (nextEvent_eq_some next).1, List.filterMap_cons, List.append_assoc]
    cases e.connection? <;> rfl
  · exact (nextEvent_keeps next).2.2.2

/-- What waits after a handshake waited before, or has been lost in the handshake. -/
theorem waiting_afterHandshake (b : Bridge) (c : Connection) (limit : Option Nat) :
    (b.afterHandshake c limit).waiting.Sublist b.waiting := by
  obtain ⟨answer, hw, -⟩ := (b.handshake_spec c limit).waited
  show (b.backlog ++ (b.handshake c limit).putOff ++ (b.handshake c limit).unread).Sublist _
  rw [List.append_assoc]
  exact (List.Sublist.refl _).append hw.sublist

theorem held_afterHandshake (b : Bridge) (c : Connection) (limit : Option Nat) :
    (b.afterHandshake c limit).held.Sublist b.opening :=
  (waiting_afterHandshake b c limit).filterMap Event.connection?

theorem held_started (b : Bridge) (c : Connection) (limit : Option Nat) :
    (b.withSession c limit).sendSchemaState.sendOptionState.held.Sublist (c :: b.opening) := by
  have hc := (b.handshake_spec c limit).connection
  rw [sendSchemaState_eq, sendOptionState_eq]
  show ((b.handshake c limit).session.client.connection
    :: (b.afterHandshake c limit).opening).Sublist _
  rw [hc]
  exact (held_afterHandshake b c limit).cons_cons c

/-- Handling an event leaves handles to its own connection and those that were held before. -/
theorem held_handling {limit : Option Nat} {b after : Bridge} {e : Event}
    {result : Except BridgeError (Option BridgeEvent)} (h : Handling limit b e result after) :
    after.held.Sublist ((b.session.map (·.client.connection)).toList ++ e.connection?.toList
      ++ b.opening) := by
  have same : b.held.Sublist ((b.session.map (·.client.connection)).toList
      ++ e.connection?.toList ++ b.opening) :=
    (List.sublist_append_left _ _).append (List.Sublist.refl _)
  cases h with
  | @refused c err failed =>
      exact (held_afterHandshake b c limit).trans (List.sublist_append_right _ _)
  | @started c ok =>
      rw [List.append_assoc]
      exact (held_started b c limit).trans (List.sublist_append_right _ _)
  | @closed s active => exact (List.sublist_append_right _ _).trans same
  | answered => exact same
  | applied => exact same
  | ignored => exact same
  | stale => exact same

theorem held_handled_opened (b : Bridge) (c : Connection) (limit : Option Nat) :
    (b.handled limit (.opened c)).2.held.Sublist (c :: b.opening) := by
  rw [handled_opened]
  cases (b.handshake c limit).outcome with
  | error err => exact (held_afterHandshake b c limit).trans (List.sublist_cons_self _ _)
  | ok u => exact held_started b c limit

theorem held_polling {limit : Option Nat} {b after : Bridge}
    {result : Except BridgeError (Option BridgeEvent)} (h : Polling limit b result after) :
    after.held.Sublist b.held := by
  rw [← held_dispatch b]
  cases h with
  | idle => exact List.Sublist.refl _
  | handled next handling =>
      obtain ⟨hheld, hsession⟩ := held_of_next next
      rw [hheld, ← hsession]
      exact held_handling handling

/-- A poll that retires a connection leaves no handle to it. -/
theorem held_retires {limit : Option Nat} {b : Bridge} {c : Connection}
    (h : b.Retires limit c) : (c :: (b.poll limit).2.held).Sublist b.held := by
  -- dispatching holds nothing more, so the event was the first that waited
  have hopening : ∀ {e : Event} {taken : Bridge}, b.dispatch.nextEvent = some (e, taken) →
      b.opening = e.connection?.toList ++ taken.opening := by
    intro e taken next
    have hw : b.waiting = e :: taken.waiting := (nextEvent_eq_some next).1
    rw [opening, hw, List.filterMap_cons]
    cases e.connection? <;> rfl
  cases h with
  | @closed s taken active next =>
      have hsession : taken.session = some s := (held_of_next next).2.trans active
      rw [poll_of_next next, handled_closed limit hsession, held.eq_1 b, active, hopening next]
      exact List.Sublist.refl _
  | @replaced s d taken active next =>
      rw [poll_of_next next, held.eq_1 b, active, hopening next]
      exact (held_handled_opened taken d limit).cons_cons _
  | @refused _ err taken next failed =>
      rw [poll_of_next next, handled_opened, failed, held.eq_1 b, hopening next]
      -- a session that was there is lost as well
      refine List.Sublist.trans ?_ (List.sublist_append_right _ _)
      exact (held_afterHandshake taken c limit).cons_cons c

theorem held_act (a : Action) (b : Bridge) :
    (b.act a).held.Sublist (b.held ++ (a.connection? b.lines.length).toList) := by
  cases a using Action.cases_kind with
  | transport a h =>
      cases a with
      | signal s => exact held_receive s b
      | hangUp => exact List.sublist_append_left _ _
      | stopReading id => exact List.sublist_append_left _ _
      | _ => cases h
  | poll limit =>
      refine List.Sublist.trans ?_ (List.sublist_append_left _ _)
      exact held_polling (polling_poll limit b)
  | call a h =>
      rw [act_of_isCall h b, held_told]
      exact List.sublist_append_left _ _

theorem not_mem_held_act {l : Nat} {a : Action} {b : Bridge} (hlt : l < b.lines.length)
    (hl : l ∉ b.held.map Connection.line) : l ∉ (b.act a).held.map Connection.line := by
  intro hmem
  obtain ⟨c, hc, rfl⟩ := List.mem_map.1 hmem
  rcases List.mem_append.1 ((held_act a b).subset hc) with hold | hnew
  · exact hl (List.mem_map_of_mem hold)
  · cases a with
    | signal s =>
        cases s with
        | opened id room =>
            -- the new handle is to a line that was not there
            obtain rfl : c = ⟨id, b.lines.length⟩ := List.mem_singleton.1 hnew
            exact Nat.lt_irrefl _ hlt
        | _ => cases hnew
    | _ => cases hnew

/-! ## Frames need handles -/

/-- What is told is reported to the session. -/
theorem queued_told (b : Bridge) (e : Editor) (ns : List ClientNotification) {s : Session}
    (h : b.session = some s) :
    ∃ fs, (∀ f ∈ fs, ∃ n ∈ ns, f = n.frame) ∧ Queued s.line fs b.lines (b.told e ns).lines := by
  unfold told
  rw [h]
  exact queued_tellAll s ns b.lines

theorem lines_told_of_none (b : Bridge) (e : Editor) (ns : List ClientNotification)
    (h : b.session = none) : (b.told e ns).lines = b.lines := by
  unfold told
  rw [h]
  exact tellAll_none ns b.lines

/-- What comes on top of any line is of what is told. -/
theorem exists_framesAt_told (b : Bridge) (e : Editor) (ns : List ClientNotification) (l : Nat) :
    ∃ fs, (∀ f ∈ fs, ∃ n ∈ ns, f = n.frame)
      ∧ (b.told e ns).lines.framesAt l = b.lines.framesAt l ++ fs := by
  cases hs : b.session with
  | none => exact ⟨[], by simp, by rw [lines_told_of_none b e ns hs, List.append_nil]⟩
  | some s =>
      obtain ⟨fs, hfs, hq⟩ := queued_told b e ns hs
      obtain ⟨gs, hgs, hframes⟩ := hq.exists_framesAt l
      exact ⟨gs, fun f hf => hfs f (hgs hf), hframes⟩

theorem framesAt_told (b : Bridge) (e : Editor) (ns : List ClientNotification) {l : Nat}
    (h : ∀ s, b.session = some s → l ≠ s.line) :
    (b.told e ns).lines.framesAt l = b.lines.framesAt l := by
  cases hs : b.session with
  | none => rw [lines_told_of_none b e ns hs]
  | some s =>
      obtain ⟨fs, -, hq⟩ := queued_told b e ns hs
      exact hq.framesAt_of_ne (h s hs)

theorem length_told (b : Bridge) (e : Editor) (ns : List ClientNotification) :
    (b.told e ns).lines.length = b.lines.length := by
  cases hs : b.session with
  | none => rw [lines_told_of_none b e ns hs]
  | some s =>
      obtain ⟨fs, -, hq⟩ := queued_told b e ns hs
      exact hq.length

/-- The bridge after a handshake that has succeeded, with the state of the editor sent. -/
theorem started_eq_told (b : Bridge) :
    b.sendSchemaState.sendOptionState
      = (b.told b.editor b.editor.schemaStateNotices).told b.editor.reflectOptions
          b.editor.optionStateNotices := by
  rw [sendSchemaState_eq, sendOptionState_eq]
  rfl

theorem length_handling {limit : Option Nat} {b after : Bridge} {e : Event}
    {result : Except BridgeError (Option BridgeEvent)} (h : Handling limit b e result after) :
    after.lines.length = b.lines.length := by
  have hands : ∀ c, (b.handshake c limit).lines.length = b.lines.length := by
    intro c
    obtain ⟨fs, hq, -⟩ := (b.handshake_spec c limit).queued
    exact hq.length
  cases h with
  | @refused c => exact hands c
  | @started c =>
      rw [started_eq_told, length_told, length_told]
      exact hands c
  | answered _ _ sent => exact (Rpc.Lines.queued_of_send sent).length
  | _ => rfl

/-- Handling an event queues frames on the line of the session and on that of its own
connection. -/
theorem framesAt_handling {limit : Option Nat} {b after : Bridge} {e : Event}
    {result : Except BridgeError (Option BridgeEvent)} (h : Handling limit b e result after)
    {l : Nat} (hs : ∀ s, b.session = some s → l ≠ s.line)
    (hc : ∀ c, e = .opened c → l ≠ c.line) :
    after.lines.framesAt l = b.lines.framesAt l := by
  have hands : ∀ c, e = .opened c →
      (b.handshake c limit).lines.framesAt l = b.lines.framesAt l := by
    intro c he
    obtain ⟨fs, hq, -⟩ := (b.handshake_spec c limit).queued
    exact hq.framesAt_of_ne (hc c he)
  cases h with
  | @refused c => exact hands c rfl
  | @started c ok =>
      have hne : ∀ s, (b.withSession c limit).session = some s → l ≠ s.line := by
        intro s h
        cases h
        rw [line_handshake]
        exact hc c rfl
      rw [started_eq_told]
      calc _ = ((b.withSession c limit).told _ _).lines.framesAt l := framesAt_told _ _ _ hne
        _ = (b.withSession c limit).lines.framesAt l := framesAt_told _ _ _ hne
        _ = b.lines.framesAt l := hands c rfl
  | answered active _ sent => exact (Rpc.Lines.queued_of_send sent).framesAt_of_ne (hs _ active)
  | _ => rfl

theorem length_polling {limit : Option Nat} {b after : Bridge}
    {result : Except BridgeError (Option BridgeEvent)} (h : Polling limit b result after) :
    after.lines.length = b.lines.length := by
  have hd : b.dispatch.lines.length = b.lines.length := by
    rw [dispatch_eq_told, length_told]
  cases h with
  | idle => exact hd
  | handled next handling =>
      rw [length_handling handling, (nextEvent_keeps next).2.2.1]
      exact hd

theorem framesAt_polling {limit : Option Nat} {b after : Bridge}
    {result : Except BridgeError (Option BridgeEvent)} (h : Polling limit b result after)
    {l : Nat} (hl : l ∉ b.held.map Connection.line) :
    after.lines.framesAt l = b.lines.framesAt l := by
  have hs : ∀ s, b.session = some s → l ≠ s.line := ne_line_of_not_mem_held hl
  have hd : b.dispatch.lines.framesAt l = b.lines.framesAt l := by
    rw [dispatch_eq_told]
    exact framesAt_told b _ _ hs
  cases h with
  | idle => exact hd
  | @handled e taken _ _ next handling =>
      obtain ⟨hheld, hsession⟩ := held_of_next next
      obtain ⟨-, -, hlines, -⟩ := nextEvent_keeps next
      rw [framesAt_handling handling, hlines, hd]
      · intro s h
        rw [hsession] at h
        exact hs s h
      · rintro c rfl he
        refine hl (List.mem_map.2 ⟨c, ?_, he.symm⟩)
        rw [← held_dispatch b, hheld]
        simp [Event.connection?]

theorem length_act (a : Action) (b : Bridge) : b.lines.length ≤ (b.act a).lines.length := by
  cases a using Action.cases_kind with
  | transport a h =>
      cases a with
      | signal s =>
          cases s with
          | opened id room =>
              show b.lines.length ≤ (b.lines.openLine id room).2.length
              simp
          | _ => exact Nat.le_refl _
      | hangUp => exact Nat.le_refl _
      | stopReading id =>
          show b.lines.length ≤ (b.lines.stopReading id).length
          simp
      | _ => cases h
  | poll limit => exact Nat.le_of_eq (length_polling (polling_poll limit b)).symm
  | call a h => exact Nat.le_of_eq (by rw [act_of_isCall h b, length_told])

/-- Nothing is queued on a line to which there is no handle. -/
theorem framesAt_act (a : Action) {b : Bridge} {l : Nat}
    (hl : l ∉ b.held.map Connection.line) :
    (b.act a).lines.framesAt l = b.lines.framesAt l := by
  cases a using Action.cases_kind with
  | transport a h => exact (act_of_isTransport h b).2.2 l
  | poll limit => exact framesAt_polling (polling_poll limit b) hl
  | call a h =>
      rw [act_of_isCall h b]
      exact framesAt_told b _ _ (ne_line_of_not_mem_held hl)

/-- A connection that the bridge has given up: whatever happens next, there is no handle to its
line, and nothing more is queued on it. -/
def GivenUp (b : Bridge) (l : Nat) : Prop :=
  ∀ as, (b.run as).holds l = false ∧ (b.run as).lines.framesAt l = b.lines.framesAt l

theorem givenUp_of_not_mem_held {b : Bridge} {l : Nat} (hlt : l < b.lines.length)
    (hl : l ∉ b.held.map Connection.line) : b.GivenUp l := by
  intro as
  induction as generalizing b with
  | nil =>
      refine ⟨?_, rfl⟩
      cases hh : b.holds l with
      | false => exact hh
      | true => exact absurd ((holds_iff b l).1 hh) hl
  | cons a as ih =>
      have hlt' := Nat.lt_of_lt_of_le hlt (length_act a b)
      obtain ⟨h1, h2⟩ := ih hlt' (not_mem_held_act hlt hl)
      exact ⟨h1, h2.trans (framesAt_act a hl)⟩

end Bridge

end SurfaceBridge
