import SurfaceBridge.Proofs.Bridge.Handles

set_option autoImplicit false

/-! # Retired connections

When no two connections have the same id, the events of a connection that has been retired have
no effect any more, wherever they were when it was retired: still to come, in the inbox, put off
in the handshake of another connection, or in the backlog. A poll that gets to one consumes it,
and to any other poll it is as if they were not there.
-/

namespace SurfaceBridge

open Rpc (Connection)

namespace Bridge

/-! ## Ids come from openings -/

/-- The ids of the connections that are held or will open. -/
def ids (b : Bridge) (as : List Action) : List Nat :=
  b.held.map Connection.id ++ Action.openedIds as

theorem ids_act (a : Action) (as : List Action) (b : Bridge) :
    ((b.act a).ids as).Sublist (b.ids (a :: as)) := by
  have hnew : (a.connection? b.lines.length).toList.map Connection.id
      = Action.openedIds [a] := by
    cases a with
    | signal s => cases s <;> rfl
    | _ => rfl
  have hcons : Action.openedIds (a :: as) = Action.openedIds [a] ++ Action.openedIds as :=
    List.filterMap_append (l := [a])
  have hheld := (held_act a b).map Connection.id
  rw [List.map_append, hnew] at hheld
  rw [ids, ids, hcons, ← List.append_assoc]
  exact hheld.append (List.Sublist.refl _)

theorem ids_run (as more : List Action) (b : Bridge) :
    ((b.run as).ids more).Sublist (b.ids (as ++ more)) := by
  induction as generalizing b with
  | nil => exact List.Sublist.refl _
  | cons a as ih => exact (ih (b.act a)).trans (ids_act a (as ++ more) b)

/-- The id of a connection that has been retired does not come back. -/
theorem not_mem_ids_of_retires {limit : Option Nat} {b : Bridge} {c : Connection}
    (more : List Action) (distinct : (b.ids more).Nodup) (retires : b.Retires limit c) :
    c.id ∉ ((b.act (.poll limit)).run more).held.map Connection.id := by
  -- what is retired was held, so its id is not among those that are still to open
  have hsub : (c.id :: (b.act (.poll limit)).ids more).Sublist (b.ids more) :=
    ((held_retires retires).map Connection.id).append (List.Sublist.refl _)
  have habsent : c.id ∉ (b.act (.poll limit)).ids more :=
    (List.nodup_cons.1 (hsub.nodup distinct)).1
  intro hmem
  have hrun := ids_run more [] (b.act (.poll limit))
  rw [List.append_nil] at hrun
  exact habsent (hrun.subset (List.mem_append_left _ hmem))

/-! ## Leaving events out -/

/-- A bridge without the events of connections with this id. -/
def without (id : Nat) (b : Bridge) : Bridge :=
  { b with
    backlog := b.backlog.filter fun e => e.id ≠ id
    inbox := { b.inbox with events := b.inbox.events.filter fun e => e.id ≠ id } }

variable {id : Nat} {b taken : Bridge} {e : Event}

theorem nextEvent_without (other : e.id ≠ id) (next : b.nextEvent = some (e, taken)) :
    (b.without id).nextEvent = some (e, taken.without id) := by
  have hkeep : ∀ rest : List Event, (e :: rest).filter (fun e => e.id ≠ id)
      = e :: rest.filter fun e => e.id ≠ id :=
    fun rest => List.filter_cons_of_pos (by simpa using other)
  unfold nextEvent at next
  split at next
  · rename_i rest hb
    cases next
    have hback : (b.without id).backlog = e :: rest.filter fun e => e.id ≠ id := by
      rw [← hkeep, ← hb]
      rfl
    simp only [nextEvent, hback]
    rfl
  · rename_i rest hb hi
    cases next
    have hback : (b.without id).backlog = [] := by
      show b.backlog.filter _ = []
      rw [hb]
      rfl
    have hinbox : (b.without id).inbox.events = e :: rest.filter fun e => e.id ≠ id := by
      rw [← hkeep, ← hi]
      rfl
    simp only [nextEvent, hback, hinbox]
    simp [without, hb]
  · cases next

theorem handleMessage_without (id : Nat) (b : Bridge) (s : Session) (text : String) :
    (b.without id).handleMessage s text
      = (b.handleMessage s text).map fun p => (p.1, p.2.without id) := by
  unfold handleMessage
  cases Rpc.Message.read text with
  | error err => rfl
  | ok m =>
      cases m with
      | request rid method params =>
          dsimp only [without]
          cases s.answer rid method params b.lines <;> rfl
      | response rid result error => rfl
      | notification method params =>
          dsimp only [without]
          cases ServerNotification.decode method params with
          | error err => rfl
          | ok found =>
              cases found with
              | none => rfl
              | some n =>
                  dsimp only
                  cases b.editor.applyNotification n <;> rfl

theorem handled_without (limit : Option Nat) (b : Bridge) (notOpened : ∀ c, e ≠ .opened c) :
    (b.without id).handled limit e
      = ((b.handled limit e).1, (b.handled limit e).2.without id) := by
  by_cases old : b.IsStale e
  · have old' : (b.without id).IsStale e := old
    rw [handled_stale old, handled_stale old']
  · rcases eq_of_not_isStale old with ⟨c, rfl⟩ | ⟨s, hs, rfl | ⟨text, rfl⟩⟩
    · exact absurd rfl (notOpened c)
    · have hs' : (b.without id).session = some s := hs
      rw [handled_closed limit hs, handled_closed limit hs']
      rfl
    · have hs' : (b.without id).session = some s := hs
      rw [handled_message limit hs, handled_message limit hs', handleMessage_without]
      cases b.handleMessage s text <;> rfl

/-- A handshake with another connection goes on as it did without these events, in less time. -/
theorem handled_opened_without (limit : Option Nat) (b : Bridge) {c : Connection}
    (other : c.id ≠ id) :
    ∃ spent, (b.without id).handled (limit.map (· - spent)) (.opened c)
      = ((b.handled limit (.opened c)).1, (b.handled limit (.opened c)).2.without id) := by
  have hrole : ∀ e : Event, decide (e.id ≠ id) = false → e.role c.id 1 = .other := by
    intro e he
    have hid : e.id = id := by simpa using he
    exact Event.role_of_ne (by rw [hid]; exact Ne.symm other)
  obtain ⟨spent, h⟩ := @Session.start_filter c b.clientName limit b.inbox b.lines _ hrole
  have hhand : (b.without id).handshake c (limit.map (· - spent)) = { b.handshake c limit with
      putOff := (b.handshake c limit).putOff.filter fun e => e.id ≠ id
      unread := (b.handshake c limit).unread.filter fun e => e.id ≠ id } := h
  have hafter : (b.without id).afterHandshake c (limit.map (· - spent))
      = (b.afterHandshake c limit).without id := by
    unfold afterHandshake
    rw [hhand]
    simp [without]
  refine ⟨spent, ?_⟩
  rw [handled_opened, handled_opened, withSession, hafter, hhand]
  cases (b.handshake c limit).outcome <;> rfl

/-- A poll that gets to an event of another connection goes on as it did without these events. -/
theorem poll_without (limit : Option Nat) (other : e.id ≠ id)
    (next : b.dispatch.nextEvent = some (e, taken)) :
    ∃ spent, (b.without id).poll (limit.map (· - spent))
      = ((b.poll limit).1, (b.poll limit).2.without id) := by
  have next' : (b.without id).dispatch.nextEvent = some (e, taken.without id) :=
    nextEvent_without other next
  have hzero : limit.map (· - 0) = limit := by
    cases limit <;> rfl
  rw [poll_of_next next]
  -- only a handshake reads ahead, so only there is time to be saved
  cases e with
  | opened c =>
      obtain ⟨spent, h⟩ := handled_opened_without limit taken (c := c) other
      exact ⟨spent, (poll_of_next next').trans h⟩
  | message i text =>
      refine ⟨0, ?_⟩
      rw [hzero, poll_of_next next']
      exact handled_without limit taken (by simp)
  | closed i =>
      refine ⟨0, ?_⟩
      rw [hzero, poll_of_next next']
      exact handled_without limit taken (by simp)

/-! ## Connections without a handle -/

theorem id_ne_of_not_mem_held (absent : id ∉ b.held.map Connection.id) {s : Session}
    (hs : b.session = some s) : s.id ≠ id := by
  intro he
  exact absent (List.mem_map.2 ⟨_, mem_held_of_session hs, he⟩)

/-- An event of a connection that is not held does nothing but take a poll. -/
theorem poll_of_not_mem_held (absent : id ∉ b.held.map Connection.id) (hid : e.id = id)
    (next : b.dispatch.nextEvent = some (e, taken)) (limit : Option Nat) :
    b.poll limit = (.ok none, taken) := by
  obtain ⟨hheld, hsession⟩ := held_of_next next
  rw [held_dispatch] at hheld
  -- an opening would be a handle, and the session is another one
  have old : taken.IsStale e := by
    constructor
    · rintro c rfl
      refine absent (List.mem_map.2 ⟨c, ?_, hid⟩)
      rw [hheld]
      simp [Event.connection?]
    · intro s hs
      rw [hsession] at hs
      rw [hid]
      exact Ne.symm (id_ne_of_not_mem_held absent hs)
  rw [poll_of_next next, handled_stale old]

/-! ## Every run -/

/-- After a poll has retired a connection, and if no id opens twice: the connection has no
session; a poll that gets to an event of it consumes this event and dispatches the changes that
wait, as every poll does, and no more; and a poll that gets to any other event does what it would
do if there were no events of the connection, except that it takes time to read them. -/
theorem isolated_of_retires (e : Editor) (clientName : String) (as more : List Action)
    (limit : Option Nat) {retiring b : Bridge} {c : Connection}
    (distinct : (Action.openedIds (as ++ more)).Nodup)
    (reached : (ofEditor e clientName).run as = retiring) (retires : retiring.Retires limit c)
    (later : (retiring.act (.poll limit)).run more = b) :
    (∀ s, b.session = some s → s.id ≠ c.id)
      ∧ (∀ ev taken, b.dispatch.nextEvent = some (ev, taken) → ev.id = c.id →
          ∃ backlog events, b.waiting = ev :: (backlog ++ events)
            ∧ ∀ limit, b.poll limit = (.ok none, { b.dispatch with
                backlog := backlog, inbox := { b.inbox with events := events } }))
      ∧ (∀ ev taken limit, b.dispatch.nextEvent = some (ev, taken) → ev.id ≠ c.id →
          ∃ spent, (b.without c.id).poll (limit.map (· - spent))
            = ((b.poll limit).1, (b.poll limit).2.without c.id)) := by
  have hids : (retiring.ids more).Nodup := by
    rw [← reached]
    exact (ids_run as more _).nodup distinct
  have habsent := not_mem_ids_of_retires more hids retires
  rw [later] at habsent
  refine ⟨fun s => id_ne_of_not_mem_held habsent, ?_, ?_⟩
  · intro ev taken next hid
    obtain ⟨hw, ht, -⟩ := nextEvent_eq_some next
    refine ⟨taken.backlog, taken.inbox.events, hw, fun limit => ?_⟩
    rw [poll_of_not_mem_held habsent hid next limit]
    exact congrArg (Prod.mk _) ht
  · intro ev taken limit next hid
    exact poll_without limit hid next

/-- A connection closes while it has the session. What then arrives from it is not even a message,
but a poll does not notice, and neither does the handshake with the next connection. -/
theorem isolated_of_retires_closed :
    ∃ retiring after other,
      (ofEditor .sample "page").run (Action.welcome 1 ++ [.signal (.closed 1)]) = retiring
        ∧ retiring.Retires none ⟨1, 0⟩
        ∧ (retiring.act (.poll none)).run [.signal (.message 1 "\x7b")] = after
        ∧ (∀ limit, (after.poll limit).1 = .ok none)
        ∧ (retiring.act (.poll none)).run
            [.signal (.opened 2 none), .signal (.message 1 "\x7b")] = other
        ∧ (other.without 1).poll none = ((other.poll none).1, (other.poll none).2.without 1) := by
  generalize hr : (ofEditor .sample "page").run (Action.welcome 1 ++ [.signal (.closed 1)]) = retiring
  generalize ha : (retiring.act (.poll none)).run [.signal (.message 1 "\x7b")] = after
  generalize ho : (retiring.act (.poll none)).run
    [.signal (.opened 2 none), .signal (.message 1 "\x7b")] = other
  have hsession : retiring.session.map (fun s => s.client.connection) = some ⟨1, 0⟩ := by
    rw [← hr]
    cbv
  have hclosed : retiring.dispatch.nextEvent.map Prod.fst = some (.closed 1) := by
    rw [← hr]
    cbv
  have hmessage : after.dispatch.nextEvent.map Prod.fst = some (.message 1 "\x7b") := by
    rw [← ha, ← hr]
    cbv
  have hopened : other.dispatch.nextEvent.map Prod.fst = some (.opened ⟨2, 1⟩) := by
    rw [← ho, ← hr]
    cbv
  obtain ⟨s, hs, hc⟩ := Option.map_eq_some_iff.1 hsession
  obtain ⟨taken, next⟩ := exists_nextEvent hclosed
  obtain ⟨taken', next'⟩ := exists_nextEvent hmessage
  obtain ⟨taken'', next''⟩ := exists_nextEvent hopened
  have hid : s.id = 1 := congrArg Connection.id hc
  have retires : retiring.Retires none ⟨1, 0⟩ := by
    rw [← hc]
    exact .closed hs (by rw [hid]; exact next)
  obtain ⟨-, consumed, -⟩ := isolated_of_retires .sample "page" _ _ none (by decide) hr retires ha
  obtain ⟨-, -, unnoticed⟩ := isolated_of_retires .sample "page" _ _ none (by decide) hr retires ho
  refine ⟨retiring, after, other, rfl, retires, ha, fun limit => ?_, ho, ?_⟩
  · obtain ⟨backlog, events, -, h⟩ := consumed _ taken' next' rfl
    rw [h limit]
  · obtain ⟨_, h⟩ := unnoticed _ taken'' none next'' (by decide)
    exact h

end Bridge

end SurfaceBridge
