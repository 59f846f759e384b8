import SurfaceBridge.Proofs.Bridge.Handshake
import SurfaceBridge.Proofs.Bridge.Notices

set_option autoImplicit false

/-! # Polls

Everything that a poll can do. `Handling` lists what can come of one event and `Polling` what can
come of a poll: it dispatches the changes that wait, and handles the first of the events that
wait, if there is one.
-/

namespace SurfaceBridge

open Rpc (Connection Frame Lines Message)

namespace Bridge

/-- The events that have not been handled yet, in the order in which they will be. -/
def waiting (b : Bridge) : List Event := b.backlog ++ b.inbox.events

/-- The handshake with a connection. -/
def handshake (b : Bridge) (c : Connection) (limit : Option Nat) : Session.Start :=
  (Session.ofConnection c).start b.clientName limit b.inbox b.lines

/-- The bridge after a handshake, without its session. -/
def afterHandshake (b : Bridge) (c : Connection) (limit : Option Nat) : Bridge :=
  { b with
    session := none
    backlog := b.backlog ++ (b.handshake c limit).putOff
    inbox := { b.inbox with events := (b.handshake c limit).unread }
    lines := (b.handshake c limit).lines }

/-- The bridge after a handshake that has succeeded, with its session. -/
def withSession (b : Bridge) (c : Connection) (limit : Option Nat) : Bridge :=
  { b.afterHandshake c limit with session := some (b.handshake c limit).session }

theorem handshake_spec (b : Bridge) (c : Connection) (limit : Option Nat) :
    Session.Handshake c b.clientName limit b.inbox b.lines (b.handshake c limit) :=
  Session.handshake_start c b.clientName limit b.inbox b.lines

theorem line_handshake (b : Bridge) (c : Connection) (limit : Option Nat) :
    (b.handshake c limit).session.line = c.line :=
  congrArg Connection.line (b.handshake_spec c limit).connection

/-! ## The next event -/

/-- Taking the next event changes what waits and nothing else. -/
theorem nextEvent_eq_some {b b' : Bridge} {e : Event} (h : b.nextEvent = some (e, b')) :
    b.waiting = e :: b'.waiting
      ∧ b' = { b with backlog := b'.backlog, inbox := { b.inbox with events := b'.inbox.events } }
      ∧ (b.backlog = e :: b'.backlog ∨ b.backlog = [] ∧ b'.backlog = []) := by
  unfold nextEvent at h
  split at h
  · rename_i rest hb
    cases h
    exact ⟨by simp [waiting, hb], rfl, Or.inl hb⟩
  · rename_i rest hb hi
    cases h
    exact ⟨by simp [waiting, hb, hi], rfl, Or.inr ⟨hb, hb⟩⟩
  · cases h

theorem nextEvent_keeps {b b' : Bridge} {e : Event} (h : b.nextEvent = some (e, b')) :
    b'.editor = b.editor ∧ b'.clientName = b.clientName ∧ b'.lines = b.lines
      ∧ b'.session = b.session := by
  rw [(nextEvent_eq_some h).2.1]
  exact ⟨rfl, rfl, rfl, rfl⟩

theorem waiting_of_none {b : Bridge} (h : b.nextEvent = none) : b.waiting = [] := by
  unfold nextEvent at h
  split at h
  · cases h
  · cases h
  · rename_i hb hi
    rw [waiting, hb, hi]
    rfl

theorem exists_nextEvent {b : Bridge} {e : Event} (h : b.nextEvent.map Prod.fst = some e) :
    ∃ taken, b.nextEvent = some (e, taken) := by
  obtain ⟨⟨_, taken⟩, next, rfl⟩ := Option.map_eq_some_iff.1 h
  exact ⟨taken, next⟩

/-! ## Handling an event -/

/-- An event that is neither an opened connection nor one of the session. -/
def IsStale (b : Bridge) (e : Event) : Prop :=
  (∀ c, e ≠ .opened c) ∧ ∀ s, b.session = some s → e.id ≠ s.id

/-- What can come of an event: the result of the poll and the bridge afterwards. -/
inductive Handling (limit : Option Nat) (b : Bridge) :
    Event → Except BridgeError (Option BridgeEvent) → Bridge → Prop where
  /-- A handshake fails. -/
  | refused {c : Connection} {err : BridgeError}
      (failed : (b.handshake c limit).outcome = .error err) :
      Handling limit b (.opened c) (.ok none) (b.afterHandshake c limit)
  /-- A handshake succeeds, and the state of the editor is sent. -/
  | started {c : Connection} (ok : (b.handshake c limit).outcome = .ok ()) :
      Handling limit b (.opened c) (.ok (some (.sessionStarted c.id)))
        (b.withSession c limit).sendSchemaState.sendOptionState
  /-- The connection of the session has closed. -/
  | closed {s : Session} (active : b.session = some s) :
      Handling limit b (.closed s.id) (.ok (some (.sessionClosed s.id))) { b with session := none }
  /-- A question of the server is answered. -/
  | answered {s : Session} {text : String} {f : Frame} {lines : Lines}
      (active : b.session = some s) (isAnswer : f.IsAnswer)
      (sent : b.lines.send s.client.connection f = some lines) :
      Handling limit b (.message s.id text) (.ok none) { b with lines := lines }
  /-- A notification of the server is applied. -/
  | applied {s : Session} {text : String} {n : ServerNotification} {e : Editor}
      (active : b.session = some s) (done : b.editor.applyNotification n = .ok e) :
      Handling limit b (.message s.id text) (.ok (some (.notification n)))
        { b with editor := e, log := b.log ++ n.logged }
  /-- Any other message of the session changes nothing; it may be an error. -/
  | ignored {s : Session} {text : String} {result : Except BridgeError (Option BridgeEvent)}
      (active : b.session = some s) (nothing : ∀ event, result ≠ .ok (some event)) :
      Handling limit b (.message s.id text) result b
  /-- An event of no connection that counts is dropped. -/
  | stale {e : Event} (old : b.IsStale e) : Handling limit b e (.ok none) b

/-- The result of handling an event, and the bridge afterwards. -/
def handled (limit : Option Nat) (e : Event) (b : Bridge) :
    Except BridgeError (Option BridgeEvent) × Bridge :=
  match b.handleEvent limit e with
  | .error err => (.error err, b)
  | .ok (event, b) => (.ok event, b)

/-- An event that counts is an opened connection, or one of the session. -/
theorem eq_of_not_isStale {b : Bridge} {e : Event} (h : ¬ b.IsStale e) :
    (∃ c, e = .opened c)
      ∨ ∃ s, b.session = some s ∧ (e = .closed s.id ∨ ∃ text, e = .message s.id text) := by
  by_cases hopened : ∃ c, e = .opened c
  · exact Or.inl hopened
  · have hsession : ¬ ∀ s, b.session = some s → e.id ≠ s.id :=
      fun hall => h ⟨fun c hc => hopened ⟨c, hc⟩, hall⟩
    -- it is not an opening, so what makes it count is the id of the session
    have hown : ∃ s, b.session = some s ∧ e.id = s.id := by
      cases hs : b.session with
      | none => exact absurd (fun s hs' => by rw [hs] at hs'; cases hs') hsession
      | some s =>
          refine ⟨s, rfl, Decidable.byContradiction fun hne => hsession fun s' hs' => ?_⟩
          rw [hs] at hs'
          cases hs'
          exact hne
    obtain ⟨s, hs, hid⟩ := hown
    refine Or.inr ⟨s, hs, ?_⟩
    cases e with
    | opened c => exact absurd ⟨c, rfl⟩ hopened
    | message id text => exact Or.inr ⟨text, congrArg (Event.message · text) hid⟩
    | closed id => exact Or.inl (congrArg Event.closed hid)

theorem handled_stale {limit : Option Nat} {e : Event} {b : Bridge} (old : b.IsStale e) :
    b.handled limit e = (.ok none, b) := by
  obtain ⟨notOpened, other⟩ := old
  unfold handled handleEvent
  cases e with
  | opened c => exact absurd rfl (notOpened c)
  | message id text =>
      cases hs : b.session with
      | none => rfl
      | some s => simp [show id ≠ s.id from other s hs]
  | closed id =>
      cases hs : b.session with
      | none => rfl
      | some s => simp [show id ≠ s.id from other s hs]

/-- An opening is handled alike with and without a session. -/
theorem handleEvent_opened (limit : Option Nat) (c : Connection) (b : Bridge) :
    b.handleEvent limit (.opened c) = .ok (b.openSession c limit) := by
  unfold handleEvent
  cases b.session <;> rfl

theorem handled_opened (limit : Option Nat) (c : Connection) (b : Bridge) :
    b.handled limit (.opened c) =
      match (b.handshake c limit).outcome with
      | .error _ => (.ok none, b.afterHandshake c limit)
      | .ok () =>
        (.ok (some (.sessionStarted c.id)),
          (b.withSession c limit).sendSchemaState.sendOptionState) := by
  rw [handled, handleEvent_opened]
  show (Except.ok (b.openSession c limit).1, (b.openSession c limit).2) = _
  unfold openSession
  cases ho : (b.handshake c limit).outcome with
  | error err =>
      have ho' : ((Session.ofConnection c).start b.clientName limit b.inbox b.lines).outcome
          = .error err := ho
      simp only [ho']
      rfl
  | ok u =>
      have ho' : ((Session.ofConnection c).start b.clientName limit b.inbox b.lines).outcome
          = .ok () := ho
      simp only [ho']
      rfl

theorem handled_closed (limit : Option Nat) {b : Bridge} {s : Session}
    (active : b.session = some s) :
    b.handled limit (.closed s.id)
      = (.ok (some (.sessionClosed s.id)), { b with session := none }) := by
  simp [handled, handleEvent, active]

/-- The end of a connection takes at most the session with it. -/
theorem exists_handled_closed (limit : Option Nat) (id : Nat) (b : Bridge) :
    ∃ event session, b.handled limit (.closed id) = (.ok event, { b with session := session }) := by
  by_cases old : b.IsStale (.closed id)
  · exact ⟨none, b.session, handled_stale old⟩
  · obtain ⟨c, he⟩ | ⟨s, active, he | ⟨text, he⟩⟩ := eq_of_not_isStale old
    · cases he
    · rw [he, handled_closed limit active]
      exact ⟨_, none, rfl⟩
    · cases he

theorem handled_message (limit : Option Nat) {b : Bridge} {s : Session}
    (active : b.session = some s) (text : String) :
    b.handled limit (.message s.id text) =
      match b.handleMessage s text with
      | .error err => (.error err, b)
      | .ok (event, b) => (.ok event, b) := by
  have h : b.handleEvent limit (.message s.id text) = b.handleMessage s text := by
    simp [handleEvent, active]
  rw [handled, h]

/-- A message of the session is answered, applied or ignored. -/
theorem handling_message {limit : Option Nat} {b : Bridge} {s : Session}
    (active : b.session = some s) (text : String) :
    Handling limit b (.message s.id text) (b.handled limit (.message s.id text)).1
      (b.handled limit (.message s.id text)).2 := by
  rw [handled_message limit active]
  unfold handleMessage
  cases Message.read text with
  | error err => exact .ignored active (by simp)
  | ok m =>
      cases m with
      | request id method params =>
          dsimp only
          cases hans : s.answer id method params b.lines with
          | error err => exact .ignored active (by simp)
          | ok lines =>
              exact .answered active ⟨id, method, params, rfl⟩
                ((Session.send_eq_ok s.client).1 hans)
      | response id result error => exact .ignored active (by simp)
      | notification method params =>
          dsimp only
          cases ServerNotification.decode method params with
          | error err => exact .ignored active (by simp)
          | ok found =>
              cases found with
              | none => exact .ignored active (by simp)
              | some n =>
                  dsimp only
                  cases happ : b.editor.applyNotification n with
                  | error err => exact .ignored active (by simp)
                  | ok e => exact .applied active happ

theorem handling_handled (limit : Option Nat) (b : Bridge) (e : Event) :
    Handling limit b e (b.handled limit e).1 (b.handled limit e).2 := by
  by_cases old : b.IsStale e
  · rw [handled_stale old]
    exact .stale old
  · rcases eq_of_not_isStale old with ⟨c, rfl⟩ | ⟨s, hs, rfl | ⟨text, rfl⟩⟩
    · rw [handled_opened]
      cases h : (b.handshake c limit).outcome with
      | error err => exact .refused h
      | ok u => exact .started h
    · rw [handled_closed limit hs]
      exact .closed hs
    · exact handling_message hs text

/-- A message that is not stale leaves the session and what waits as they are, and what it
reports is a notification. -/
theorem Handling.of_message {limit : Option Nat} {b after : Bridge} {id : Nat} {text : String}
    {result : Except BridgeError (Option BridgeEvent)}
    (h : Handling limit b (.message id text) result after)
    (fresh : ¬ b.IsStale (.message id text)) :
    after.session = b.session ∧ after.backlog = b.backlog ∧ after.inbox = b.inbox
      ∧ ∀ v, result.toOption.join = some v → ∃ n, v = .notification n := by
  cases h with
  | answered => exact ⟨rfl, rfl, rfl, fun v hv => by cases hv⟩
  | @applied _ _ n =>
      refine ⟨rfl, rfl, rfl, fun v hv => ⟨n, ?_⟩⟩
      cases hv
      rfl
  | ignored _ nothing =>
      refine ⟨rfl, rfl, rfl, fun v hv => ?_⟩
      cases result with
      | error err => cases hv
      | ok event => exact absurd (congrArg Except.ok hv) (nothing v)
  | stale old => exact absurd old fresh

theorem Handling.of_closed {limit : Option Nat} {b after : Bridge} {id : Nat}
    {result : Except BridgeError (Option BridgeEvent)}
    (h : Handling limit b (.closed id) result after) (fresh : ¬ b.IsStale (.closed id)) :
    result = .ok (some (.sessionClosed id)) ∧ after = { b with session := none } := by
  cases h with
  | closed => exact ⟨rfl, rfl⟩
  | stale old => exact absurd old fresh

/-! ## A whole poll -/

/-- A result without an event has no event in it. -/
theorem join_eq_none {result : Except BridgeError (Option BridgeEvent)}
    (nothing : ∀ event, result ≠ .ok (some event)) : result.toOption.join = none := by
  cases result with
  | error err => rfl
  | ok event =>
      cases event with
      | none => rfl
      | some event => exact absurd rfl (nothing event)

/-- What can come of a poll. -/
inductive Polling (limit : Option Nat) (b : Bridge) :
    Except BridgeError (Option BridgeEvent) → Bridge → Prop where
  /-- There is no event. -/
  | idle {result : Except BridgeError (Option BridgeEvent)} (empty : b.dispatch.nextEvent = none)
      (nothing : ∀ event, result ≠ .ok (some event)) : Polling limit b result b.dispatch
  /-- The next event is handled. -/
  | handled {e : Event} {taken after : Bridge} {result : Except BridgeError (Option BridgeEvent)}
      (next : b.dispatch.nextEvent = some (e, taken))
      (handling : Handling limit taken e result after) : Polling limit b result after

theorem poll_of_next {limit : Option Nat} {b taken : Bridge} {e : Event}
    (next : b.dispatch.nextEvent = some (e, taken)) : b.poll limit = taken.handled limit e := by
  cases h : taken.handleEvent limit e with
  | error err => simp [poll, handled, next, h]
  | ok p => simp [poll, handled, next, h]

theorem poll_of_none {limit : Option Nat} {b : Bridge} (h : b.dispatch.nextEvent = none) :
    b.poll limit
      = (if b.dispatch.inbox.hungUp then .error .transportClosed else .ok none, b.dispatch) := by
  unfold poll
  simp [h]

theorem polling_poll (limit : Option Nat) (b : Bridge) :
    Polling limit b (b.poll limit).1 (b.poll limit).2 := by
  cases h : b.dispatch.nextEvent with
  | none =>
      rw [poll_of_none h]
      refine .idle h fun event => ?_
      cases b.dispatch.inbox.hungUp <;> simp
  | some p =>
      obtain ⟨e, taken⟩ := p
      rw [poll_of_next h]
      exact .handled h (handling_handled limit taken e)

/-! ## Retiring a connection -/

/-- A poll retires a connection: it handles the end of the connection of the session, or another
connection that has opened while there is a session, or a connection with which the handshake
fails. -/
inductive Retires (limit : Option Nat) (b : Bridge) : Connection → Prop where
  | closed {s : Session} {taken : Bridge} (active : b.session = some s)
      (next : b.dispatch.nextEvent = some (.closed s.id, taken)) :
      Retires limit b s.client.connection
  | replaced {s : Session} {c : Connection} {taken : Bridge} (active : b.session = some s)
      (next : b.dispatch.nextEvent = some (.opened c, taken)) :
      Retires limit b s.client.connection
  | refused {c : Connection} {err : BridgeError} {taken : Bridge}
      (next : b.dispatch.nextEvent = some (.opened c, taken))
      (failed : (taken.handshake c limit).outcome = .error err) : Retires limit b c

end Bridge

end SurfaceBridge
