import SurfaceBridge.Proofs.Bridge.Conversation
import SurfaceBridge.Proofs.Bridge.Stream

set_option autoImplicit false

/-! # Delivery

With a transport that reports a stream of blocks, a bridge goes through `Stage`s: it is idle, or
it has the session of a block of which some messages are left. `step_act` says that every action
is a step between stages, and `delivered_of_run` reads off from whole runs that messages are
handed over in order and each once, and that the events of the sessions come in pairs.

Which message an action hands over is computed by `handedOf` from what waits, and this is what the
action really does with it: `Hands` compares the action with `handleMessage`, and `handsIn_iff` says
that the two agree on whole runs.
-/

namespace SurfaceBridge

open Rpc (Connection)

/-- The id and the text of a message. -/
def Event.message? : Event → Option (Nat × String)
  | .message id text => some (id, text)
  | _ => none

namespace Bridge

/-! ## What is handed over -/

/-- The message that an action hands to the session it belongs to, if it is a poll that gets to
such a message. -/
def handedOf (a : Action) (b : Bridge) : Option (Nat × String) :=
  match a with
  | .poll _ =>
    match b.dispatch.nextEvent, b.session with
    | some (e, _), some s => e.message?.filter fun m => m.1 = s.id
    | _, _ => none
  | _ => none

/-- The messages that a run hands over, the first one first. -/
def handedIn : List Action → Bridge → List (Nat × String)
  | [], _ => []
  | a :: as, b => (b.handedOf a).toList ++ handedIn as (b.act a)

/-- What a poll reports and leaves when handling an event has come to this: an error leaves the
bridge as it is without the event. -/
def concluded (b : Bridge) (outcome : Except BridgeError (Option BridgeEvent × Bridge)) :
    Except BridgeError (Option BridgeEvent) × Bridge :=
  match outcome with
  | .error err => (.error err, b)
  | .ok (event, after) => (.ok event, after)

/-- What an action hands over, seen from what it does. A poll hands over a message of the session if
it does with it what `handleMessage` does. Every other event is dealt with otherwise: a message of
no session comes to nothing, a connection that opens is greeted, and one that closes takes at most
the session with it. All other actions leave what waits. -/
inductive Hands (b : Bridge) : Action → Option (Nat × String) → Prop where
  | handed {limit : Option Nat} {s : Session} {text : String} {taken : Bridge}
      (active : b.session = some s) (next : b.dispatch.nextEvent = some (.message s.id text, taken))
      (done : b.poll limit = taken.concluded (taken.handleMessage s text)) :
      Hands b (.poll limit) (some (s.id, text))
  | dropped {limit : Option Nat} {id : Nat} {text : String} {taken : Bridge}
      (other : ∀ s, b.session = some s → id ≠ s.id)
      (next : b.dispatch.nextEvent = some (.message id text, taken))
      (done : b.poll limit = (.ok none, taken)) : Hands b (.poll limit) none
  | opened {limit : Option Nat} {c : Connection} {taken : Bridge}
      (next : b.dispatch.nextEvent = some (.opened c, taken))
      (done : b.poll limit = taken.concluded (.ok (taken.openSession c limit))) :
      Hands b (.poll limit) none
  | closed {limit : Option Nat} {id : Nat} {taken : Bridge} {event : Option BridgeEvent}
      {session : Option Session} (next : b.dispatch.nextEvent = some (.closed id, taken))
      (done : b.poll limit = (.ok event, { taken with session := session })) :
      Hands b (.poll limit) none
  | idle {limit : Option Nat} (next : b.dispatch.nextEvent = none)
      (done : (b.poll limit).2 = b.dispatch) : Hands b (.poll limit) none
  | quiet {a : Action} (notPoll : ∀ limit, a ≠ .poll limit)
      (kept : b.waiting <+: (b.act a).waiting) : Hands b a none

theorem handedOf_message {limit : Option Nat} {b taken : Bridge} {id : Nat} {text : String}
    (next : b.dispatch.nextEvent = some (.message id text, taken)) :
    b.handedOf (.poll limit)
      = if ∃ s, b.session = some s ∧ id = s.id then some (id, text) else none := by
  cases hs : b.session with
  | none => simp [handedOf, hs]
  | some s => simp [handedOf, next, hs, Event.message?, Option.filter]

theorem hands_message (limit : Option Nat) {b taken : Bridge} {id : Nat} {text : String}
    (next : b.dispatch.nextEvent = some (.message id text, taken)) :
    b.Hands (.poll limit) (b.handedOf (.poll limit)) := by
  have hsession : taken.session = b.session := (nextEvent_keeps next).2.2.2
  have hdone : b.poll limit = taken.handled limit (.message id text) := poll_of_next next
  rw [handedOf_message next]
  by_cases hown : ∃ s, b.session = some s ∧ id = s.id
  · rw [if_pos hown]
    obtain ⟨s, active, rfl⟩ := hown
    rw [handled_message limit (hsession.trans active)] at hdone
    exact .handed active next hdone
  · rw [if_neg hown]
    have hother : ∀ s, b.session = some s → id ≠ s.id := fun s hs hid => hown ⟨s, hs, hid⟩
    have hstale : taken.IsStale (.message id text) :=
      ⟨by simp, fun s hs => hother s (hsession.symm.trans hs)⟩
    rw [handled_stale hstale] at hdone
    exact .dropped hother next hdone

theorem hands_poll (limit : Option Nat) (b : Bridge) :
    b.Hands (.poll limit) (b.handedOf (.poll limit)) := by
  -- only a message can be handed over
  have hnone : (∀ id text taken, b.dispatch.nextEvent ≠ some (.message id text, taken)) →
      b.handedOf (.poll limit) = none := by
    intro notMessage
    unfold handedOf
    dsimp only
    split
    · rename_i e taken s next active
      cases e with
      | message id text => exact absurd next (notMessage id text taken)
      | _ => rfl
    · rfl
  cases next : b.dispatch.nextEvent with
  | none =>
      rw [hnone (by simp [next])]
      refine .idle next ?_
      rw [poll_of_none next]
  | some p =>
      obtain ⟨e, taken⟩ := p
      cases e with
      | message id text => exact hands_message limit next
      | opened c =>
          rw [hnone (by simp [next])]
          refine .opened next ?_
          rw [poll_of_next next, handled, handleEvent_opened]
          rfl
      | closed id =>
          rw [hnone (by simp [next])]
          obtain ⟨event, session, hdone⟩ := exists_handled_closed limit id taken
          exact .closed next ((poll_of_next next).trans hdone)

theorem next_of_handedOf {limit : Option Nat} {b : Bridge} {id : Nat} {text : String}
    (h : b.handedOf (.poll limit) = some (id, text)) :
    ∃ s taken, b.session = some s ∧ s.id = id
      ∧ b.dispatch.nextEvent = some (.message id text, taken) := by
  have hhands := hands_poll limit b
  rw [h] at hhands
  cases hhands with
  | handed active next => exact ⟨_, _, active, rfl, next⟩

/-- What waits to be handled and what the transport still reports. -/
def pending (b : Bridge) (as : List Action) : List Signal :=
  b.waiting.map Event.bare ++ if b.inbox.hungUp then [] else arrivals as

theorem pending_of_next {b taken : Bridge} {e : Event} (next : b.nextEvent = some (e, taken))
    (as : List Action) : b.pending as = e.bare :: taken.pending as := by
  obtain ⟨hw, ht, -⟩ := nextEvent_eq_some next
  have hhung : taken.inbox.hungUp = b.inbox.hungUp := by
    rw [ht]
  rw [pending, pending, hw, hhung]
  rfl

/-- Nothing but a poll changes what is pending, the session or the backlog. -/
theorem pending_act {a : Action} (h : ∀ limit, a ≠ .poll limit) (as : List Action) (b : Bridge) :
    (b.act a).pending as = b.pending (a :: as) ∧ (b.act a).session = b.session
      ∧ (b.act a).backlog = b.backlog := by
  cases a using Action.cases_kind with
  | transport a ha =>
      cases a with
      | signal s =>
          refine ⟨?_, by cases s <;> rfl, by cases s <;> rfl⟩
          cases hh : b.inbox.hungUp <;> cases s <;>
            simp [act, receive, pending, waiting, Inbox.push, hh, arrivals, Event.bare, Signal.bare,
              Rpc.Lines.openLine]
      | hangUp =>
          refine ⟨?_, rfl, rfl⟩
          simp [act, pending, waiting, Inbox.hangUp, arrivals]
      | stopReading id => exact ⟨rfl, rfl, rfl⟩
      | _ => cases ha
  | poll limit => exact absurd rfl (h limit)
  | call a ha =>
      rw [act_of_isCall ha b]
      refine ⟨?_, rfl, rfl⟩
      cases a <;> first | rfl | cases ha

end Bridge

/-! ## Stages -/

/-- Where a bridge is in a stream: it has no session and some blocks are to come, or it has the
session of a block of which these texts are left, and some blocks are to come after it. -/
inductive Stage where
  | idle (blocks : List Block)
  | active (k : Block) (blocks : List Block)

/-- What can happen in a stage: the message that is handed over, the event that is reported, and
the next stage. -/
inductive Stage.Step : Stage → Option (Nat × String) → Option BridgeEvent → Stage → Prop where
  | stay {st : Stage} : Step st none none st
  /-- A handshake fails, and no message of its block is handed over. -/
  | refused {k : Block} {blocks : List Block} : Step (.idle (k :: blocks)) none none (.idle blocks)
  /-- A handshake succeeds. It uses up the answer and the questions before it. -/
  | started {k : Block} {blocks : List Block} {before after : List String} {t : String}
      (texts : k.texts = before ++ t :: after)
      (unanswered : ∀ u ∈ before, answersGreeting u = false) (answer : answersGreeting t = true) :
      Step (.idle (k :: blocks)) none (some (.sessionStarted k.id))
        (.active (k.withTexts ((before.filter fun u => !asks u) ++ after)) blocks)
  /-- The next message is handed over. -/
  | handed {k : Block} {blocks : List Block} {t : String} {texts : List String}
      {event : Option BridgeEvent} (next : k.texts = t :: texts)
      (notice : ∀ v, event = some v → ∃ n, v = .notification n) :
      Step (.active k blocks) (some (k.id, t)) event (.active (k.withTexts texts) blocks)
  /-- All messages have been handed over, and the connection closes. -/
  | closed {k : Block} {blocks : List Block} (done : k.texts = []) (finished : k.finished = true) :
      Step (.active k blocks) none (some (.sessionClosed k.id)) (.idle blocks)

/-- The stage of a bridge to which certain actions are still to happen. -/
def Stage.At (b : Bridge) (as : List Action) : Stage → Prop
  | .idle blocks =>
    b.session = none ∧ InTurn blocks ∧ (∀ e ∈ b.backlog, e.bare.openedId? = none)
      ∧ ∃ left, (∀ s ∈ left, s.openedId? = none) ∧ b.pending as = left ++ stream blocks
  | .active k blocks =>
    (∃ s, b.session = some s ∧ s.id = k.id) ∧ InTurn (k :: blocks)
      ∧ (∀ e ∈ b.backlog, e.bare.openedId? = none) ∧ b.pending as = k.body ++ stream blocks

namespace Bridge

/-! ## Every action is a step -/

variable {limit : Option Nat} {b taken after : Bridge} {e : Event} {as : List Action}
variable {result : Except BridgeError (Option BridgeEvent)}

/-- A handshake at the start of a block leaves the backlog and what is pending in order. If it
succeeds, what is pending is the block without the answer and the questions before it. -/
theorem handshake_block {c : Connection} {k : Block} {blocks : List Block} (limit : Option Nat)
    (turn : InTurn (k :: blocks)) (hid : c.id = k.id) (empty : b.backlog = [])
    (body : b.pending as = k.body ++ stream blocks) :
    (∀ e ∈ (b.afterHandshake c limit).backlog, e.bare.openedId? = none)
      ∧ (∃ left, (∀ s ∈ left, s.openedId? = none)
        ∧ (b.afterHandshake c limit).pending as = left ++ stream blocks)
      ∧ ((b.handshake c limit).outcome = .ok () →
        ∃ before t after, k.texts = before ++ t :: after
          ∧ (∀ u ∈ before, answersGreeting u = false) ∧ answersGreeting t = true
          ∧ (b.afterHandshake c limit).pending as
            = (k.withTexts ((before.filter fun u => !asks u) ++ after)).body ++ stream blocks) := by
  obtain ⟨answer, waited, hok⟩ := (b.handshake_spec c limit).waited
  have hbacklog : (b.afterHandshake c limit).backlog = (b.handshake c limit).putOff := by
    show b.backlog ++ _ = _
    rw [empty]
    rfl
  have hpending : (b.afterHandshake c limit).pending as
      = ((b.handshake c limit).putOff ++ (b.handshake c limit).unread).map Event.bare
        ++ if b.inbox.hungUp then [] else arrivals as := by
    rw [pending, waiting, hbacklog]
    rfl
  have hbody : b.inbox.events.map Event.bare ++ (if b.inbox.hungUp then [] else arrivals as)
      = k.body ++ stream blocks := by
    rw [← body, pending, waiting, empty]
    rfl
  -- the wait was for the connection of this block
  rw [hid] at waited
  obtain ⟨hold, hleft, hanswer⟩ := waited_block turn hbody waited
  rw [hbacklog, hpending]
  refine ⟨hold, hleft, fun ok => ?_⟩
  obtain ⟨m, hm⟩ := hok ok
  exact hanswer m hm

theorem backlog_subset (next : b.nextEvent = some (e, taken)) : taken.backlog ⊆ b.backlog := by
  intro d hd
  rcases (nextEvent_eq_some next).2.2 with hback | ⟨-, hback⟩
  · rw [hback]
    exact List.mem_cons_of_mem e hd
  · rw [hback] at hd
    cases hd

/-- Without a session, a connection that opens is the start of the next block, and nothing that
was put off waits any more. -/
theorem block_of_opened {c : Connection} {blocks : List Block} (at' : (Stage.idle blocks).At b as)
    (next : b.nextEvent = some (.opened c, taken)) :
    ∃ k rest, blocks = k :: rest ∧ c.id = k.id ∧ taken.backlog = []
      ∧ taken.pending as = k.body ++ stream rest := by
  obtain ⟨-, -, backlog, left, old, pending⟩ := at'
  rw [pending_of_next next] at pending
  have hempty : taken.backlog = [] := by
    rcases (nextEvent_eq_some next).2.2 with hback | ⟨-, hback⟩
    · have hc := backlog (.opened c) (by rw [hback]; exact List.mem_cons_self)
      cases hc
    · exact hback
  cases left with
  | cons s left =>
      -- what is left of earlier blocks opens nothing
      have hs := old s List.mem_cons_self
      rw [← (List.cons.inj pending).1] at hs
      cases hs
  | nil =>
      cases blocks with
      | nil => cases pending
      | cons k rest =>
          obtain ⟨hbare, hrest⟩ := List.cons.inj pending
          obtain ⟨_, he, hid⟩ := Event.eq_opened_of_bare hbare
          cases he
          exact ⟨k, rest, rfl, hid, hempty, hrest⟩

/-- Without a session, any other event is what is left of an earlier block. -/
theorem at_of_not_opened {blocks : List Block} (at' : (Stage.idle blocks).At b as)
    (next : b.nextEvent = some (e, taken)) (notOpened : ∀ c, e ≠ .opened c) :
    (Stage.idle blocks).At taken as := by
  obtain ⟨idle, turn, backlog, left, old, pending⟩ := at'
  rw [pending_of_next next] at pending
  have hidle : taken.session = none := (nextEvent_keeps next).2.2.2.trans idle
  have hbacklog : ∀ d ∈ taken.backlog, d.bare.openedId? = none :=
    fun d hd => backlog d (backlog_subset next hd)
  cases left with
  | nil =>
      cases blocks with
      | nil => cases pending
      | cons k rest =>
          obtain ⟨c, rfl, -⟩ := Event.eq_opened_of_bare (List.cons.inj pending).1
          exact absurd rfl (notOpened c)
  | cons s left =>
      refine ⟨hidle, turn, hbacklog, left, ?_, (List.cons.inj pending).2⟩
      exact fun s hs => old s (List.mem_cons_of_mem _ hs)

/-- A poll in a stage without a session. -/
theorem step_idle {blocks : List Block} (at' : (Stage.idle blocks).At b as)
    (next : b.nextEvent = some (e, taken)) (handling : Handling limit taken e result after) :
    ∃ st, Stage.Step (.idle blocks) none result.toOption.join st ∧ st.At after as := by
  have hidle : ∀ s, taken.session ≠ some s := by
    intro s active
    rw [(nextEvent_keeps next).2.2.2, at'.1] at active
    cases active
  cases handling with
  | @refused c err failed =>
      obtain ⟨k, rest, rfl, hid, hempty, hbody⟩ := block_of_opened at' next
      obtain ⟨hback, hleft, -⟩ := handshake_block limit at'.2.1 hid hempty hbody
      exact ⟨.idle rest, .refused, rfl, at'.2.1.tail, hback, hleft⟩
  | @started c ok =>
      obtain ⟨k, rest, rfl, hid, hempty, hbody⟩ := block_of_opened at' next
      obtain ⟨hback, -, hok⟩ := handshake_block limit at'.2.1 hid hempty hbody
      obtain ⟨before, t, after, htexts, hbefore, ht, hpending⟩ := hok ok
      have hconnection := (taken.handshake_spec c limit).connection
      have hstep : Stage.Step (.idle (k :: rest)) none _ _ := .started htexts hbefore ht
      rw [← hid] at hstep
      rw [sendSchemaState_eq, sendOptionState_eq]
      refine ⟨_, hstep, ⟨_, rfl, ?_⟩, at'.2.1.withTexts _, hback, hpending⟩
      show (taken.handshake c limit).session.client.connection.id = k.id
      rw [hconnection]
      exact hid
  | closed active => exact absurd active (hidle _)
  | answered active => exact absurd active (hidle _)
  | applied active => exact absurd active (hidle _)
  | ignored active => exact absurd active (hidle _)
  | stale stale => exact ⟨.idle blocks, .stay, at_of_not_opened at' next stale.1⟩

/-- A poll in a stage with the session of a block. -/
theorem step_active {k : Block} {blocks : List Block} {s : Session} (active : b.session = some s)
    (at' : (Stage.active k blocks).At b as) (next : b.nextEvent = some (e, taken))
    (handling : Handling limit taken e result after) :
    ∃ st, Stage.Step (.active k blocks) (e.message?.filter fun m => m.1 = s.id)
      result.toOption.join st ∧ st.At after as := by
  obtain ⟨⟨s', active', hid⟩, turn, backlog, pending⟩ := at'
  rw [active] at active'
  cases active'
  have hactive : taken.session = some s := (nextEvent_keeps next).2.2.2.trans active
  have hbacklog : ∀ d ∈ taken.backlog, d.bare.openedId? = none :=
    fun d hd => backlog d (backlog_subset next hd)
  rw [pending_of_next next] at pending
  rcases next_of_block turn pending with ⟨t, texts, htexts, rfl, hrest⟩ | ⟨htexts, hf, rfl, hrest⟩
  · have hfresh : ¬ taken.IsStale (.message k.id t) := fun stale => stale.2 s hactive hid.symm
    obtain ⟨hsession, hback, hinbox, hnotice⟩ := handling.of_message hfresh
    have hfilter : ((Event.message k.id t).message?.filter fun m => m.1 = s.id)
        = some (k.id, t) := by
      simp [Event.message?, hid]
    rw [hfilter]
    refine ⟨_, .handed htexts hnotice, ⟨s, hsession.trans hactive, hid⟩, turn.withTexts _, ?_, ?_⟩
    · rw [hback]
      exact hbacklog
    · rw [Bridge.pending, waiting, hback, hinbox]
      exact hrest
  · have hfresh : ¬ taken.IsStale (.closed k.id) := fun stale => stale.2 s hactive hid.symm
    obtain ⟨rfl, rfl⟩ := handling.of_closed hfresh
    exact ⟨_, .closed htexts hf, rfl, turn.tail, hbacklog, [], by simp, hrest⟩

theorem step_poll {st : Stage} (limit : Option Nat) (h : st.At b (.poll limit :: as)) :
    ∃ st', Stage.Step st (b.handedOf (.poll limit)) (b.eventOf (.poll limit)) st'
      ∧ st'.At (b.poll limit).2 as := by
  -- dispatching is no matter of stages
  have hd : st.At b.dispatch as := by
    cases st <;> exact h
  have hp := polling_poll limit b
  have hevent : b.eventOf (.poll limit) = (b.poll limit).1.toOption.join := rfl
  rw [hevent]
  generalize (b.poll limit).1 = result at hp
  generalize (b.poll limit).2 = after at hp
  cases hp with
  | idle empty nothing =>
      have hhanded : b.handedOf (.poll limit) = none := by
        simp [handedOf, empty]
      rw [join_eq_none nothing, hhanded]
      exact ⟨st, .stay, hd⟩
  | @handled e taken _ _ next handling =>
      cases st with
      | idle blocks =>
          have hhanded : b.handedOf (.poll limit) = none := by
            have hidle : b.session = none := h.1
            simp [handedOf, hidle]
          rw [hhanded]
          exact step_idle hd next handling
      | active k blocks =>
          obtain ⟨⟨s, active, -⟩, -⟩ := h
          have hhanded : b.handedOf (.poll limit) = e.message?.filter fun m => m.1 = s.id := by
            simp [handedOf, next, active]
          have hactive : b.dispatch.session = some s := active
          rw [hhanded]
          exact step_active hactive hd next handling

/-- Every action is a step. -/
theorem step_act {st : Stage} (a : Action) (h : st.At b (a :: as)) :
    ∃ st', Stage.Step st (b.handedOf a) (b.eventOf a) st' ∧ st'.At (b.act a) as := by
  by_cases hp : ∃ limit, a = .poll limit
  · obtain ⟨limit, rfl⟩ := hp
    exact step_poll limit h
  · have hne : ∀ limit, a ≠ .poll limit := fun limit he => hp ⟨limit, he⟩
    have hquiet : b.handedOf a = none ∧ b.eventOf a = none := by
      cases a with
      | poll limit => exact absurd rfl (hne limit)
      | _ => exact ⟨rfl, rfl⟩
    obtain ⟨hpending, hsession, hback⟩ := pending_act hne as b
    rw [hquiet.1, hquiet.2]
    refine ⟨st, .stay, ?_⟩
    cases st with
    | idle blocks =>
        obtain ⟨idle, turn, backlog, left, old, pending⟩ := h
        refine ⟨hsession.trans idle, turn, ?_, left, old, hpending.trans pending⟩
        rw [hback]
        exact backlog
    | active k blocks =>
        obtain ⟨⟨s, active, hid⟩, turn, backlog, pending⟩ := h
        refine ⟨⟨s, hsession.trans active, hid⟩, turn, ?_, hpending.trans pending⟩
        rw [hback]
        exact backlog

end Bridge

/-! ## Runs -/

/-- Several steps: the messages that are handed over, the events that are reported, and the last
stage. -/
inductive Stage.Steps : Stage → List (Nat × String) → List BridgeEvent → Stage → Prop where
  | nil {st : Stage} : Steps st [] [] st
  | cons {st st' last : Stage} {m : Option (Nat × String)} {v : Option BridgeEvent}
      {ms : List (Nat × String)} {vs : List BridgeEvent} (first : Step st m v st')
      (others : Steps st' ms vs last) : Steps st (m.toList ++ ms) (v.toList ++ vs) last

/-- The events of the sessions come in pairs, and notifications between them. A bracket sequence
starts and ends with the session of some connection or without a session. -/
inductive Bracketed : Option Nat → List BridgeEvent → Option Nat → Prop where
  | nil {open' : Option Nat} : Bracketed open' [] open'
  | started {id : Nat} {vs : List BridgeEvent} {last : Option Nat}
      (others : Bracketed (some id) vs last) : Bracketed none (.sessionStarted id :: vs) last
  | notification {id : Nat} {n : ServerNotification} {vs : List BridgeEvent} {last : Option Nat}
      (others : Bracketed (some id) vs last) : Bracketed (some id) (.notification n :: vs) last
  | closed {id : Nat} {vs : List BridgeEvent} {last : Option Nat}
      (others : Bracketed none vs last) : Bracketed (some id) (.sessionClosed id :: vs) last

/-- The connection of the session in a stage. -/
def Stage.id? : Stage → Option Nat
  | .idle _ => none
  | .active k _ => some k.id

theorem Stage.Steps.bracketed {st last : Stage} {ms : List (Nat × String)} {vs : List BridgeEvent}
    (h : Steps st ms vs last) : Bracketed st.id? vs last.id? := by
  induction h with
  | nil => exact .nil
  | @cons st st' last m v ms vs first others ih =>
      cases first with
      | stay => exact ih
      | refused => exact ih
      | started => exact .started ih
      | handed next notice =>
          cases v with
          | none => exact ih
          | some v =>
              obtain ⟨n, rfl⟩ := notice v rfl
              exact .notification ih
      | closed => exact .closed ih

/-- What is reported when a block ends. -/
def Block.closing (k : Block) : List BridgeEvent := if k.finished then [.sessionClosed k.id] else []

/-- What is handed over and reported of several blocks, one after the other. -/
inductive Served : List Block → List (Nat × String) → List BridgeEvent → Prop where
  | nil : Served [] [] []
  | refused {k : Block} {blocks : List Block} {ms : List (Nat × String)} {vs : List BridgeEvent}
      (others : Served blocks ms vs) : Served (k :: blocks) ms vs
  | served {k : Block} {blocks : List Block} {before after : List String} {t : String}
      {ms : List (Nat × String)} {ns vs : List BridgeEvent}
      (texts : k.texts = before ++ t :: after)
      (unanswered : ∀ u ∈ before, answersGreeting u = false) (answer : answersGreeting t = true)
      (notices : ∀ v ∈ ns, ∃ n, v = .notification n) (others : Served blocks ms vs) :
      Served (k :: blocks)
        (((before.filter fun u => !asks u) ++ after).map (fun u => (k.id, u)) ++ ms)
        (.sessionStarted k.id :: (ns ++ (k.closing ++ vs)))

/-- The texts that were handed over to the session of a connection. -/
def textsOf (id : Nat) (ms : List (Nat × String)) : List String :=
  (ms.filter fun m => m.1 = id).map Prod.snd

theorem textsOf_append (id : Nat) (ms ns : List (Nat × String)) :
    textsOf id (ms ++ ns) = textsOf id ms ++ textsOf id ns := by
  simp [textsOf]

theorem textsOf_self (id : Nat) (texts : List String) :
    textsOf id (texts.map fun u => (id, u)) = texts := by
  have hfilter : (texts.map fun u => (id, u)).filter (fun m => m.1 = id)
      = texts.map fun u => (id, u) :=
    List.filter_eq_self.2 (by simp)
  rw [textsOf, hfilter, List.map_map]
  exact List.map_id texts

theorem textsOf_eq_nil {id : Nat} {ms : List (Nat × String)} (h : ∀ m ∈ ms, m.1 ≠ id) :
    textsOf id ms = [] := by
  have hfilter : ms.filter (fun m => m.1 = id) = [] :=
    List.filter_eq_nil_iff.2 fun m hm => by simpa using h m hm
  rw [textsOf, hfilter]
  rfl

namespace Served

variable {blocks : List Block} {ms : List (Nat × String)} {vs : List BridgeEvent}

/-- The only start in what is reported of one block is its own. -/
theorem eq_or_started_mem {k : Block} {ns : List BridgeEvent}
    (notices : ∀ v ∈ ns, ∃ n, v = .notification n) {id : Nat}
    (h : .sessionStarted id
      ∈ (.sessionStarted k.id :: (ns ++ (k.closing ++ vs)) : List BridgeEvent)) :
    id = k.id ∨ .sessionStarted id ∈ vs := by
  rcases List.mem_cons.1 h with he | h
  · exact Or.inl (BridgeEvent.sessionStarted.inj he)
  · rcases List.mem_append.1 h with h | h
    · obtain ⟨n, hn⟩ := notices _ h
      cases hn
    · rcases List.mem_append.1 h with h | h
      · unfold Block.closing at h
        split at h
        · cases List.mem_singleton.1 h
        · cases h
      · exact Or.inr h

theorem started_mem (h : Served blocks ms vs) {id : Nat} (started : .sessionStarted id ∈ vs) :
    id ∈ blocks.map Block.id := by
  induction h with
  | nil => cases started
  | refused others ih => exact List.mem_cons_of_mem _ (ih started)
  | served texts unanswered answer notices others ih =>
      rcases eq_or_started_mem notices started with rfl | hs
      · exact List.mem_cons_self
      · exact List.mem_cons_of_mem _ (ih hs)

theorem handed_mem (h : Served blocks ms vs) {m : Nat × String} (hm : m ∈ ms) :
    m.1 ∈ blocks.map Block.id := by
  induction h with
  | nil => cases hm
  | refused others ih => exact List.mem_cons_of_mem _ (ih hm)
  | served texts unanswered answer notices others ih =>
      rcases List.mem_append.1 hm with hm | hm
      · obtain ⟨u, -, rfl⟩ := List.mem_map.1 hm
        exact List.mem_cons_self
      · exact List.mem_cons_of_mem _ (ih hm)

/-- If no two blocks have the same id: a block of which the handshake succeeds hands over all its
messages in order, but for the answer and the questions before it, and any other block none. -/
theorem delivered (h : Served blocks ms vs) (distinct : (blocks.map Block.id).Nodup) :
    ∀ k ∈ blocks,
      (.sessionStarted k.id ∈ vs → ∃ before t after, k.texts = before ++ t :: after
        ∧ (∀ u ∈ before, answersGreeting u = false) ∧ answersGreeting t = true
        ∧ textsOf k.id ms = (before.filter fun u => !asks u) ++ after)
      ∧ (.sessionStarted k.id ∉ vs → textsOf k.id ms = []) := by
  have hnone : ∀ {k : Block} {blocks : List Block} {ms : List (Nat × String)}
      {vs : List BridgeEvent}, Served blocks ms vs → k.id ∉ blocks.map Block.id →
        textsOf k.id ms = [] := by
    intro k blocks ms vs others hk
    refine textsOf_eq_nil fun m hm he => hk ?_
    rw [← he]
    exact others.handed_mem hm
  induction h with
  | nil => simp
  | @refused k blocks ms vs others ih =>
      obtain ⟨hk, hdistinct⟩ := List.nodup_cons.1 distinct
      intro k' hk'
      rcases List.mem_cons.1 hk' with rfl | hk'
      · exact ⟨fun started => absurd (others.started_mem started) hk, fun _ => hnone others hk⟩
      · exact ih hdistinct k' hk'
  | @served k blocks before after t ms ns vs texts unanswered answer notices others ih =>
      obtain ⟨hk, hdistinct⟩ := List.nodup_cons.1 distinct
      intro k' hk'
      rw [textsOf_append]
      rcases List.mem_cons.1 hk' with rfl | hk'
      · rw [textsOf_self, hnone others hk, List.append_nil]
        -- the other blocks have other ids and contribute nothing
        refine ⟨fun _ => ⟨before, t, after, texts, unanswered, answer, rfl⟩, fun absent => ?_⟩
        exact absurd List.mem_cons_self absent
      · have hne : k'.id ≠ k.id := fun he => hk (he ▸ List.mem_map_of_mem hk')
        have hown : textsOf k'.id
            (((before.filter fun u => !asks u) ++ after).map fun u => (k.id, u)) = [] := by
          refine textsOf_eq_nil fun m hm => ?_
          obtain ⟨u, -, rfl⟩ := List.mem_map.1 hm
          exact Ne.symm hne
        obtain ⟨hstarted, hfailed⟩ := ih hdistinct k' hk'
        rw [hown, List.nil_append]
        constructor
        · intro started
          rcases eq_or_started_mem notices started with he | hs
          · exact absurd he hne
          · exact hstarted hs
        · intro absent
          refine hfailed fun hs => absent ?_
          exact List.mem_cons_of_mem _ (List.mem_append_right _ (List.mem_append_right _ hs))

end Served

namespace Bridge

theorem at_ofEditor (e : Editor) (clientName : String) {as : List Action} {blocks : List Block}
    (turn : InTurn blocks) (arrive : arrivals as = stream blocks) :
    (Stage.idle blocks).At (ofEditor e clientName) as := by
  refine ⟨rfl, turn, ?_, [], by simp, arrive⟩
  intro d hd
  cases hd

end Bridge

end SurfaceBridge
