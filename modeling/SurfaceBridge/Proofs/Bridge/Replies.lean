import SurfaceBridge.Proofs.Bridge.Agreement
import SurfaceBridge.Proofs.Bridge.Delivery
import SurfaceBridge.Proofs.Bridge.Messages

set_option autoImplicit false

/-! # Responses to the server

A connection with a session is `Serving`: its requests are answered as they are read, by the
handshake and then by polls, so that the responses on its line are those to the requests among the
texts that have been read. What the handshake puts off has no requests in it. When the connection
closes, all of its texts have been read, and nothing is queued on its line any more.

None of this holds if a response can get lost, so here no reader goes away.
-/

namespace SurfaceBridge

open Rpc (Client Connection Frame Lines Message Request)
open Rpc.Lines (Lasting Queued)

/-! ## Readers that stay -/

/-- Whether an action leaves all readers where they are. -/
def Action.isLive : Action → Bool
  | .signal (.opened _ room) => room.isNone
  | .stopReading _ => false
  | _ => true

/-- Lines whose readers never stop. -/
def Rpc.Lines.Live (lines : Lines) : Prop := ∀ l, l < lines.length → Lasting l lines

namespace Session

theorem lasting_await {l : Nat} (c : Client) (n : Nat) (hungUp : Bool) (events : List Event)
    (limit : Option Nat) (lines : Lines) (last : Lasting l lines) :
    Lasting l (await c n hungUp events limit lines).lines := by
  refine await_induction c n hungUp
    (motive := fun _ lines w => Lasting l lines → Lasting l w.lines)
    ?stopped ?answered ?refused ?replied ?ended ?other events limit lines last
  case replied =>
      intro e events lines lines' f w _ hs ih last
      exact ih (last.of_send ((send_eq_ok c).1 hs))
  case other => exact fun _ _ _ _ _ ih => ih
  case stopped => exact fun _ _ _ last => last
  case answered => exact fun _ _ _ _ _ last => last
  case refused => exact fun _ _ _ _ _ _ last => last
  case ended => exact fun _ _ _ _ _ last => last

theorem Handshake.lasting {c : Connection} {clientName : String} {limit : Option Nat}
    {inbox : Inbox} {lines : Lines} {st : Start} (h : Handshake c clientName limit inbox lines st)
    {l : Nat} (last : Lasting l lines) : Lasting l st.lines := by
  cases h with
  | unsent => exact last
  | failed _ greet => exact lasting_await _ _ _ _ _ _ (last.of_send greet)
  | started _ _ greet _ confirm =>
      exact (lasting_await _ _ _ _ _ _ (last.of_send greet)).of_send confirm

end Session

/-- The connection whose session an event says has started. -/
def BridgeEvent.startedId? : BridgeEvent → Option Nat
  | .sessionStarted id => some id
  | _ => none

namespace Bridge

variable {limit : Option Nat} {b taken after : Bridge} {e : Event} {as : List Action} {l : Nat}
variable {result : Except BridgeError (Option BridgeEvent)}

theorem lasting_polling (h : Polling limit b result after) (last : Lasting l b.lines) :
    Lasting l after.lines := by
  have hd := lasting_dispatch last
  cases h with
  | idle => exact hd
  | @handled e taken _ _ next handling =>
      rw [← (nextEvent_keeps next).2.2.1] at hd
      cases handling with
      | @refused c err failed => exact (taken.handshake_spec c limit).lasting hd
      | @started c ok =>
          have hstarted : Lasting l (taken.withSession c limit).lines :=
            (taken.handshake_spec c limit).lasting hd
          exact lasting_started hstarted
      | answered _ _ sent => exact hd.of_send sent
      | _ => exact hd

theorem lasting_act {a : Action} (live : a.isLive = true) (last : Lasting l b.lines) :
    Lasting l (b.act a).lines := by
  cases a using Action.cases_kind with
  | transport a transport =>
      cases a with
      | signal s =>
          cases s with
          | opened id room =>
              obtain ⟨line, hline, hroom⟩ := last
              have hold := (List.getElem?_eq_some_iff.1 hline).1
              exact ⟨line, by simpa [act, receive, Rpc.Lines.openLine] using
                (List.getElem?_append_left hold).trans hline, hroom⟩
          | _ => exact last
      | hangUp => exact last
      | stopReading id => cases live
      | _ => cases transport
  | poll limit => exact lasting_polling (polling_poll limit b) last
  | call a call =>
      rw [act_of_isCall call]
      exact lasting_told last _ _

theorem live_act {a : Action} (live : a.isLive = true) (h : b.lines.Live) :
    (b.act a).lines.Live := by
  intro l hl
  by_cases hold : l < b.lines.length
  · exact lasting_act live (h l hold)
  · -- the line is new, so it belongs to a connection that has just opened
    cases a using Action.cases_kind with
    | transport a transport =>
        cases a with
        | signal s =>
            cases s with
            | opened id room =>
                obtain rfl : room = none := by simpa [Action.isLive] using live
                have hlength : (b.lines.openLine id none).2.length = b.lines.length + 1 :=
                  Rpc.Lines.length_openLine id none b.lines
                obtain rfl : l = b.lines.length := by
                  have hl : l < (b.lines.openLine id none).2.length := hl
                  omega
                exact ⟨⟨id, [], none⟩, by simp [act, receive, Rpc.Lines.openLine], rfl⟩
            | _ => exact absurd hl hold
        | hangUp => exact absurd hl hold
        | stopReading id => cases live
        | _ => cases transport
    | poll limit =>
        have hlength : (b.act (.poll limit)).lines.length = b.lines.length :=
          length_polling (polling_poll limit b)
        rw [hlength] at hl
        exact absurd hl hold
    | call a call =>
        rw [act_of_isCall call, length_told] at hl
        exact absurd hl hold

theorem live_run (as : List Action) (live : ∀ a ∈ as, a.isLive = true) (h : b.lines.Live) :
    (b.run as).lines.Live := by
  induction as generalizing b with
  | nil => exact h
  | cons a as ih =>
      exact ih (fun a' ha' => live a' (List.mem_cons_of_mem _ ha'))
        (live_act (live a List.mem_cons_self) h)

/-! ## Sessions that start -/

/-- The connection with which an action starts a session. -/
def startedBy (a : Action) (b : Bridge) : Option Connection :=
  match a with
  | .poll limit =>
    match b.dispatch.nextEvent with
    | some (.opened c, taken) =>
      match (taken.handshake c limit).outcome with
      | .ok () => some c
      | .error _ => none
    | _ => none
  | _ => none

/-- The connections with which a run starts sessions, the oldest first. -/
def startedIn : List Action → Bridge → List Connection
  | [], _ => []
  | a :: as, b => (b.startedBy a).toList ++ startedIn as (b.act a)

theorem startedBy_eq_some {a : Action} {c : Connection} :
    b.startedBy a = some c ↔ ∃ limit taken, a = .poll limit
      ∧ b.dispatch.nextEvent = some (.opened c, taken)
      ∧ (taken.handshake c limit).outcome = .ok () := by
  constructor
  · intro h
    unfold startedBy at h
    split at h
    · rename_i limit
      split at h
      · rename_i c' taken next
        split at h
        · rename_i ok
          cases h
          exact ⟨limit, taken, rfl, next, ok⟩
        · cases h
      · cases h
    · cases h
  · rintro ⟨limit, taken, rfl, next, ok⟩
    simp [startedBy, next, ok]

theorem startedBy_map_id (a : Action) (b : Bridge) :
    (b.startedBy a).map Connection.id = (b.eventOf a).bind BridgeEvent.startedId? := by
  cases a with
  | poll limit =>
      have hevent : b.eventOf (.poll limit) = (b.poll limit).1.toOption.join := rfl
      rw [hevent]
      cases hn : b.dispatch.nextEvent with
      | none =>
          rw [poll_of_none hn, startedBy]
          simp only [hn]
          split <;> rfl
      | some p =>
          obtain ⟨e, taken⟩ := p
          rw [poll_of_next hn, startedBy]
          simp only [hn]
          have handling := handling_handled limit taken e
          generalize (taken.handled limit e).1 = result at handling ⊢
          generalize (taken.handled limit e).2 = after at handling
          cases handling with
          | refused failed => simp [failed, Except.toOption]
          | started ok => simp [ok, Except.toOption, BridgeEvent.startedId?]
          | ignored _ nothing => rw [join_eq_none nothing]; rfl
          | stale old =>
              cases e with
              | opened c => exact absurd rfl (old.1 c)
              | _ => rfl
          | _ => rfl
  | _ => rfl

/-- The sessions that a run starts are those whose start is reported. -/
theorem startedIn_map_id (as : List Action) (b : Bridge) :
    (b.startedIn as).map Connection.id = (b.eventsOf as).filterMap BridgeEvent.startedId? := by
  induction as generalizing b with
  | nil => rfl
  | cons a as ih =>
      have hact : (b.startedBy a).toList.map Connection.id
          = (b.eventOf a).toList.filterMap BridgeEvent.startedId? := by
        calc (b.startedBy a).toList.map Connection.id
            = ((b.startedBy a).map Connection.id).toList := by cases b.startedBy a <;> rfl
          _ = ((b.eventOf a).bind BridgeEvent.startedId?).toList := by rw [startedBy_map_id]
          _ = (b.eventOf a).toList.filterMap BridgeEvent.startedId? := by
            cases b.eventOf a with
            | none => rfl
            | some v => cases v <;> rfl
      rw [startedIn, eventsOf, List.map_append, List.filterMap_append, ih, hact]

theorem split_of_mem_startedIn {c : Connection} (h : c ∈ b.startedIn as) :
    ∃ before limit more taken, as = before ++ .poll limit :: more
      ∧ (b.run before).dispatch.nextEvent = some (.opened c, taken)
      ∧ (taken.handshake c limit).outcome = .ok () := by
  induction as generalizing b with
  | nil => cases h
  | cons a as ih =>
      rcases List.mem_append.1 h with h | h
      · obtain ⟨limit, taken, rfl, next, ok⟩ := startedBy_eq_some.1 (Option.mem_toList.1 h)
        exact ⟨[], limit, as, taken, rfl, next, ok⟩
      · obtain ⟨before, limit, more, taken, rfl, next, ok⟩ := ih h
        exact ⟨a :: before, limit, more, taken, rfl, next, ok⟩

end Bridge

/-! ## What has been read -/

/-- The text of a message of a connection. -/
def Signal.textOf (id : Nat) : Signal → Option String
  | .message i text => if i = id then some text else none
  | _ => none

theorem Block.filterMap_textOf (k : Block) : k.body.filterMap (Signal.textOf k.id) = k.texts := by
  have htexts : (k.texts.map (Signal.message k.id)).filterMap (Signal.textOf k.id) = k.texts := by
    rw [List.filterMap_map]
    simp [Function.comp_def, Signal.textOf]
  have hending : k.ending.filterMap (Signal.textOf k.id) = [] := by
    unfold Block.ending
    cases k.finished <;> rfl
  rw [Block.body, List.filterMap_append, htexts, hending, List.append_nil]

/-- Other blocks have no messages of a connection. -/
theorem textOf_stream {id : Nat} {blocks : List Block} (other : id ∉ blocks.map Block.id) :
    ∀ s ∈ stream blocks, s.textOf id = none := by
  intro s hs
  obtain ⟨k, hk, hs⟩ := List.mem_flatMap.1 hs
  have hid : k.id ≠ id := fun he => other (he ▸ List.mem_map_of_mem hk)
  rcases List.mem_cons.1 hs with rfl | hs
  · rfl
  · rcases List.mem_append.1 hs with hs | hs
    · obtain ⟨text, -, rfl⟩ := List.mem_map.1 hs
      simp [Signal.textOf, hid]
    · unfold Block.ending at hs
      split at hs
      · rw [List.mem_singleton.1 hs]
        rfl
      · cases hs

namespace Bridge

variable {limit : Option Nat} {b taken after : Bridge} {e : Event} {as : List Action} {l : Nat}
variable {result : Except BridgeError (Option BridgeEvent)}

/-- The messages of a connection that nobody has read yet. -/
def unread (id : Nat) (b : Bridge) : List String :=
  b.inbox.events.filterMap fun e => e.bare.textOf id

/-- What waits in the inbox and what the transport still reports. -/
def incoming (b : Bridge) (as : List Action) : List Signal :=
  b.inbox.events.map Event.bare ++ if b.inbox.hungUp then [] else arrivals as

theorem pending_eq (b : Bridge) (as : List Action) :
    b.pending as = b.backlog.map Event.bare ++ b.incoming as := by
  simp [pending, waiting, incoming]

theorem unread_eq (id : Nat) (b : Bridge) :
    b.unread id = (b.incoming []).filterMap (Signal.textOf id) := by
  have hincoming : b.incoming [] = b.inbox.events.map Event.bare := by
    unfold incoming
    cases b.inbox.hungUp <;> exact List.append_nil _
  rw [hincoming, List.filterMap_map]
  rfl

/-- Nothing but a poll changes what is incoming. -/
theorem incoming_act {a : Action} (h : ∀ limit, a ≠ .poll limit) (as : List Action) (b : Bridge) :
    (b.act a).incoming as = b.incoming (a :: as) := by
  obtain ⟨hpending, -, hbacklog⟩ := pending_act h as b
  rw [pending_eq, pending_eq, hbacklog] at hpending
  exact List.append_cancel_left hpending

/-- The next event was put off, or nothing was and it is the first of the inbox. -/
theorem inbox_of_next (next : b.nextEvent = some (e, taken)) :
    b.backlog = e :: taken.backlog ∧ taken.inbox = b.inbox
      ∨ b.backlog = [] ∧ taken.backlog = [] ∧ b.inbox.events = e :: taken.inbox.events
        ∧ taken.inbox.hungUp = b.inbox.hungUp := by
  unfold nextEvent at next
  split at next
  · rename_i rest hb
    cases next
    exact Or.inl ⟨hb, rfl⟩
  · rename_i rest hb hi
    cases next
    exact Or.inr ⟨hb, hb, hi, rfl⟩
  · cases next

/-- A poll takes from the inbox and puts nothing there. -/
theorem inbox_polling (h : Polling limit b result after) :
    after.inbox.events.Sublist b.inbox.events ∧ after.inbox.hungUp = b.inbox.hungUp := by
  cases h with
  | idle => exact ⟨List.Sublist.refl _, rfl⟩
  | @handled e taken _ _ next handling =>
      have htaken : taken.inbox.events.Sublist b.inbox.events
          ∧ taken.inbox.hungUp = b.inbox.hungUp := by
        rcases inbox_of_next next with ⟨-, hinbox⟩ | ⟨-, -, hevents, hhung⟩
        · exact ⟨by rw [hinbox]; exact List.Sublist.refl _, congrArg Inbox.hungUp hinbox⟩
        · have hevents : b.inbox.events = e :: taken.inbox.events := hevents
          exact ⟨by rw [hevents]; exact List.sublist_cons_self _ _, hhung⟩
      have hands : ∀ c, (taken.handshake c limit).unread.Sublist taken.inbox.events := by
        intro c
        obtain ⟨answer, hw, -⟩ := (taken.handshake_spec c limit).waited
        exact (List.sublist_append_right _ _).trans hw.sublist
      cases handling with
      | refused => exact ⟨(hands _).trans htaken.1, htaken.2⟩
      | started =>
          rw [started_eq_told]
          exact ⟨(hands _).trans htaken.1, htaken.2⟩
      | _ => exact htaken

theorem sublist_incoming_act (a : Action) (as : List Action) (b : Bridge) :
    ((b.act a).incoming as).Sublist (b.incoming (a :: as)) := by
  by_cases hp : ∃ limit, a = .poll limit
  · obtain ⟨limit, rfl⟩ := hp
    obtain ⟨hevents, hhung⟩ := inbox_polling (polling_poll limit b)
    unfold incoming
    refine (hevents.map Event.bare).append ?_
    show (if (b.poll limit).2.inbox.hungUp then [] else arrivals as).Sublist _
    rw [hhung]
    exact List.Sublist.refl _
  · rw [incoming_act (fun limit he => hp ⟨limit, he⟩)]

theorem sublist_incoming_run (as : List Action) (b : Bridge) :
    ((b.run as).incoming []).Sublist (b.incoming as) := by
  induction as generalizing b with
  | nil => exact List.Sublist.refl _
  | cons a as ih => exact (ih (b.act a)).trans (sublist_incoming_act a as b)

/-! ## A session and its requests -/

/-- What is told is no response. -/
theorem replies_told (b : Bridge) (e : Editor) (ns : List ClientNotification) (l : Nat) :
    Frame.replies ((b.told e ns).lines.framesAt l) = Frame.replies (b.lines.framesAt l) := by
  obtain ⟨fs, hfs, hframes⟩ := b.exists_framesAt_told e ns l
  have hnone : Frame.replies fs = [] := by
    refine Frame.replies_eq_nil fun f hf => ?_
    obtain ⟨n, -, rfl⟩ := hfs f hf
    exact isReply_frame n
  rw [hframes, Frame.replies_append, hnone, List.append_nil]

/-- The responses on the line of a connection are those to the requests among the texts of its
block that have been read. -/
def Answered (k : Block) (c : Connection) (b : Bridge) : Prop :=
  ∃ consumed, k.texts = consumed ++ b.unread k.id
    ∧ Frame.replies (b.lines.framesAt c.line) = consumed.filterMap Rpc.reply?

/-- A bridge with the session of a block, to which certain actions are still to happen. Of what is
left of the block, the texts that were put off are no requests. -/
structure Serving (k : Block) (c : Connection) (blocks : List Block) (as : List Action)
    (b : Bridge) : Prop where
  active : ∃ s, b.session = some s ∧ s.client.connection = c
  backlog : ∃ put : List String,
    b.backlog = put.map (Event.message k.id) ∧ ∀ t ∈ put, asks t = false
  books : ∃ consumed left, k.texts = consumed ++ left
    ∧ b.incoming as = (k.withTexts left).body ++ stream blocks
    ∧ Frame.replies (b.lines.framesAt c.line) = consumed.filterMap Rpc.reply?

section Serving

variable {k : Block} {c : Connection} {blocks : List Block} {clientName : String}

theorem Serving.answered (h : Serving k c blocks [] b) (other : k.id ∉ blocks.map Block.id) :
    Answered k c b := by
  obtain ⟨consumed, left, htexts, hincoming, hreplies⟩ := h.books
  have hleft : b.unread k.id = left := by
    have hbody := (k.withTexts left).filterMap_textOf
    have hstream : (stream blocks).filterMap (Signal.textOf k.id) = [] :=
      List.filterMap_eq_nil_iff.2 (textOf_stream other)
    rw [unread_eq, hincoming, List.filterMap_append, hstream, List.append_nil]
    exact hbody
  exact ⟨consumed, by rw [hleft]; exact htexts, hreplies⟩

/-- When the connection has been given up and nothing more of it arrives, all has been read. -/
theorem answered_of_givenUp (other : k.id ∉ blocks.map Block.id) (givenUp : b.GivenUp c.line)
    (incoming : b.incoming as = stream blocks)
    (replies : Frame.replies (b.lines.framesAt c.line) = k.texts.filterMap Rpc.reply?) :
    Answered k c (b.run as) := by
  have hunread : (b.run as).unread k.id = [] := by
    rw [unread_eq]
    refine List.filterMap_eq_nil_iff.2 fun s hs => textOf_stream other s ?_
    rw [← incoming]
    exact (sublist_incoming_run as b).subset hs
  refine ⟨k.texts, by rw [hunread, List.append_nil], ?_⟩
  rw [(givenUp as).2]
  exact replies

theorem Serving.told (h : Serving k c blocks as b) (e : Editor) (ns : List ClientNotification) :
    Serving k c blocks as (b.told e ns) := by
  obtain ⟨consumed, left, htexts, hincoming, hreplies⟩ := h.books
  refine ⟨h.active, h.backlog, consumed, left, htexts, hincoming, ?_⟩
  rw [replies_told]
  exact hreplies

theorem Serving.act {a : Action} (notPoll : ∀ limit, a ≠ .poll limit)
    (h : Serving k c blocks (a :: as) b) : Serving k c blocks as (b.act a) := by
  obtain ⟨-, hsession, hbacklog⟩ := pending_act notPoll as b
  have hframes : Frame.replies ((b.act a).lines.framesAt c.line)
      = Frame.replies (b.lines.framesAt c.line) := by
    cases a using Action.cases_kind with
    | transport a transport => rw [(act_of_isTransport transport b).2.2]
    | poll limit => exact absurd rfl (notPoll limit)
    | call a call => rw [act_of_isCall call, replies_told]
  obtain ⟨consumed, left, htexts, hincoming, hreplies⟩ := h.books
  refine ⟨?_, ?_, consumed, left, htexts, ?_, hframes.trans hreplies⟩
  · rw [hsession]
    exact h.active
  · rw [hbacklog]
    exact h.backlog
  · rw [incoming_act notPoll]
    exact hincoming

/-- A message of the session is answered if it is a request, and leaves what waits as it is. -/
theorem handled_text {s : Session} (active : b.session = some s)
    (connection : s.client.connection = c) (id : c.id = k.id) (limit : Option Nat) (t : String) :
    ∃ e log, (b.handled limit (.message k.id t)).2
      = { b with editor := e, lines := b.lines.replied c t, log := log } := by
  have hid : s.id = k.id := by rw [Session.id, connection, id]
  rw [← hid, handled_message_eq limit active, connection]
  exact ⟨_, _, rfl⟩

/-- A text that was put off is no request. -/
theorem Serving.putOff (h : Serving k c blocks as b) (id : c.id = k.id)
    (next : b.nextEvent = some (e, taken)) (limit : Option Nat)
    (backlog : b.backlog = e :: taken.backlog) (inbox : taken.inbox = b.inbox) :
    Serving k c blocks as (taken.handled limit e).2 := by
  obtain ⟨-, -, hlines, hsession⟩ := nextEvent_keeps next
  obtain ⟨s, hs, hconnection⟩ := h.active
  obtain ⟨put, hput, hquiet⟩ := h.backlog
  obtain ⟨consumed, left, htexts, hincoming, hreplies⟩ := h.books
  rw [hput] at backlog
  cases put with
  | nil => cases backlog
  | cons t put =>
      obtain ⟨rfl, hrest⟩ := List.cons.inj backlog
      have hnone := reply?_of_not_asks (hquiet t List.mem_cons_self)
      have hreplied : taken.lines.replied c t = b.lines := by
        simp [Rpc.Lines.replied, hnone, hlines]
      obtain ⟨e, log, hhandled⟩ := handled_text (hsession.trans hs) hconnection id limit t
      rw [hhandled, hreplied]
      refine ⟨⟨s, hsession.trans hs, hconnection⟩, ⟨put, hrest.symm, ?_⟩, consumed, left,
        htexts, ?_, hreplies⟩
      · exact fun t ht => hquiet t (List.mem_cons_of_mem _ ht)
      · rw [← hincoming, incoming, incoming]
        rw [inbox]

/-- A text that is read from the inbox is answered if it is a request. -/
theorem Serving.read (h : Serving k c blocks as b) (id : c.id = k.id)
    (last : Lasting c.line b.lines) {t : String} {consumed left : List String}
    (next : b.nextEvent = some (.message k.id t, taken)) (limit : Option Nat)
    (backlog : taken.backlog = []) (texts : k.texts = consumed ++ t :: left)
    (incoming : taken.incoming as = (k.withTexts left).body ++ stream blocks)
    (replies : Frame.replies (b.lines.framesAt c.line) = consumed.filterMap Rpc.reply?) :
    Serving k c blocks as (taken.handled limit (.message k.id t)).2 := by
  obtain ⟨-, -, hlines, hsession⟩ := nextEvent_keeps next
  obtain ⟨s, hs, hconnection⟩ := h.active
  obtain ⟨e, log, hhandled⟩ := handled_text (hsession.trans hs) hconnection id limit t
  have hq := Rpc.Lines.queued_replied last t
  have hisReply : ∀ f ∈ (Rpc.reply? t).toList, f.isReply = true :=
    fun f hf => isReply_of_reply? (Option.mem_toList.1 hf)
  rw [hhandled, hlines]
  refine ⟨⟨s, hsession.trans hs, hconnection⟩, ⟨[], backlog, by simp⟩, consumed ++ [t], left, ?_,
    incoming, ?_⟩
  · rw [texts, List.append_assoc]
    rfl
  · rw [hq.frames, Frame.replies_append, Frame.replies_eq_self hisReply, replies,
      List.filterMap_append]
    cases hr : Rpc.reply? t <;> simp [hr]

/-- What comes of the next event: one more text is handled, or the block is at its end. -/
theorem Serving.handled (h : Serving k c blocks as b) (id : c.id = k.id)
    (turn : InTurn (k :: blocks)) (last : Lasting c.line b.lines)
    (next : b.nextEvent = some (e, taken)) (limit : Option Nat) :
    Serving k c blocks as (taken.handled limit e).2
      ∨ e = .closed c.id ∧ (taken.handled limit e).2.incoming as = stream blocks
        ∧ Frame.replies ((taken.handled limit e).2.lines.framesAt c.line)
          = k.texts.filterMap Rpc.reply? := by
  obtain ⟨-, -, hlines, hsession⟩ := nextEvent_keeps next
  obtain ⟨consumed, left, htexts, hincoming, hreplies⟩ := h.books
  rcases inbox_of_next next with ⟨hback, hinbox⟩ | ⟨-, hback, hevents, hhung⟩
  · exact Or.inl (h.putOff id next limit hback hinbox)
  · have hnext : e.bare :: taken.incoming as = (k.withTexts left).body ++ stream blocks := by
      rw [← hincoming, incoming, incoming, hevents, hhung]
      rfl
    rcases next_of_block (turn.withTexts left) hnext with
      ⟨t, rest, rfl, rfl, hrest⟩ | ⟨rfl, -, rfl, hrest⟩
    · exact Or.inl (h.read id last next limit hback htexts hrest hreplies)
    · obtain ⟨s, hs, hconnection⟩ := h.active
      have hid : s.id = k.id := by rw [Session.id, hconnection, id]
      have hhandled := handled_closed limit (hsession.trans hs)
      rw [hid] at hhandled
      rw [List.append_nil] at htexts
      show Serving _ _ _ _ (taken.handled limit (.closed k.id)).2 ∨ Event.closed k.id = _
        ∧ (taken.handled limit (.closed k.id)).2.incoming as = _
        ∧ Frame.replies ((taken.handled limit (.closed k.id)).2.lines.framesAt c.line) = _
      rw [hhandled, id, htexts, ← hreplies, ← hlines]
      exact Or.inr ⟨rfl, hrest, rfl⟩

/-- A poll handles one more text, or finds the block at its end and gives the connection up. -/
theorem Serving.poll (h : Serving k c blocks (.poll limit :: as) b) (id : c.id = k.id)
    (turn : InTurn (k :: blocks)) (orderly : Orderly clientName b)
    (last : Lasting c.line b.lines) :
    Serving k c blocks as (b.poll limit).2
      ∨ (b.poll limit).2.GivenUp c.line ∧ (b.poll limit).2.incoming as = stream blocks
        ∧ Frame.replies ((b.poll limit).2.lines.framesAt c.line)
          = k.texts.filterMap Rpc.reply? := by
  have hd : Serving k c blocks as b.dispatch := by
    rw [dispatch_eq_told]
    have hnow : Serving k c blocks as b := ⟨h.active, h.backlog, h.books⟩
    exact hnow.told _ _
  cases next : b.dispatch.nextEvent with
  | none =>
      rw [poll_of_none next]
      exact Or.inl hd
  | some p =>
      obtain ⟨e, taken⟩ := p
      have hpoll : b.poll limit = taken.handled limit e := poll_of_next next
      rw [hpoll]
      rcases hd.handled id turn (lasting_dispatch last) next limit with
        hserving | ⟨rfl, hincoming, hreplies⟩
      · exact Or.inl hserving
      · refine Or.inr ⟨?_, hincoming, hreplies⟩
        obtain ⟨s, hs, hconnection⟩ := h.active
        have hretires : b.Retires limit s.client.connection :=
          .closed hs (by rw [Session.id, hconnection]; exact next)
        have hgiven : (b.poll limit).2.GivenUp s.client.connection.line := orderly.givenUp hretires
        rwa [hconnection, hpoll] at hgiven

/-- A session that is served to the end of a run. -/
theorem Serving.run (h : Serving k c blocks as b) (id : c.id = k.id) (turn : InTurn (k :: blocks))
    (other : k.id ∉ blocks.map Block.id) (orderly : Orderly clientName b) (lines : b.lines.Live)
    (live : ∀ a ∈ as, a.isLive = true) (line : c.line < b.lines.length) :
    Answered k c (b.run as) := by
  induction as generalizing b with
  | nil => exact h.answered other
  | cons a as ih =>
      have hlive := live_act (live a List.mem_cons_self) lines
      have hline := Nat.lt_of_lt_of_le line (length_act a b)
      have hrest : ∀ a' ∈ as, a'.isLive = true := fun a' ha' => live a' (List.mem_cons_of_mem _ ha')
      by_cases hp : ∃ limit, a = .poll limit
      · obtain ⟨limit, rfl⟩ := hp
        rcases h.poll id turn orderly (lines c.line line) with
          hserving | ⟨hgiven, hincoming, hreplies⟩
        · exact ih hserving (orderly.act _) hlive hrest hline
        · rw [run_cons]
          exact answered_of_givenUp other hgiven hincoming hreplies
      · exact ih (h.act fun limit he => hp ⟨limit, he⟩) (orderly.act a) hlive hrest hline

/-- A handshake that succeeds has answered the requests that it has read, and what it has put off
is no request. -/
theorem serving_withSession {rest : List Block} (turn : InTurn (k :: rest)) (id : c.id = k.id)
    (empty : b.backlog = []) (fresh : b.lines.framesAt c.line = [])
    (incoming : b.incoming as = k.body ++ stream rest)
    (ok : (b.handshake c limit).outcome = .ok ()) :
    Serving k c rest as (b.withSession c limit) := by
  have hspec := b.handshake_spec c limit
  obtain ⟨before, e, m, after, hsplit, quiet, role, hputOff, hunread, hq⟩ := hspec.split ok
  rw [id] at quiet role hputOff hq
  have hbody : before.map Event.bare ++ e.bare
      :: (after.map Event.bare ++ if b.inbox.hungUp then [] else arrivals as)
      = k.body ++ stream rest := by
    rw [← incoming, Bridge.incoming, hsplit]
    simp
  obtain ⟨read, left, htexts, rfl, hread, hrest⟩ := split_of_quiet turn quiet hbody
  obtain ⟨text, rfl, hm, hanswers⟩ := Event.exists_text_of_role role
  rcases next_of_block (turn.withTexts left) hrest with ⟨t, left, rfl, he, hleft⟩ | ⟨-, -, he, -⟩
  · cases he
    -- the answer to the handshake is no request either
    have hnone : Rpc.reply? text = none := by
      refine Rpc.reply?_eq_none fun id method params hrequest => ?_
      rw [hm] at hrequest
      cases hrequest
      cases hanswers
    have hreplies : Frame.replies ((b.handshake c limit).lines.framesAt c.line)
        = (read ++ [text]).filterMap Rpc.reply? := by
      rw [hq.frames, fresh, List.nil_append, filterMap_reply? k.id hread, replies_handshake,
        List.filterMap_append]
      simp [hnone]
    refine ⟨⟨_, rfl, hspec.connection⟩, ⟨read.filter fun t => !asks t, ?_, by simp⟩, read ++ [text],
      left, ?_, ?_, hreplies⟩
    · show b.backlog ++ (b.handshake c limit).putOff = _
      rw [empty, hputOff, filter_isOther k.id hread]
      rfl
    · rw [htexts, List.append_assoc]
      rfl
    · show (b.handshake c limit).unread.map Event.bare ++ _ = _
      rw [hunread]
      exact hleft
  · cases he

/-- The start of a session, in a stage without one. -/
theorem serving_started (at' : (Stage.idle blocks).At b as) (orderly : Orderly clientName b)
    (next : b.nextEvent = some (.opened c, taken))
    (ok : (taken.handshake c limit).outcome = .ok ()) :
    ∃ k rest, blocks = k :: rest ∧ c.id = k.id
      ∧ Serving k c rest as (taken.handled limit (.opened c)).2 := by
  obtain ⟨k, rest, rfl, hid, hempty, hbody⟩ := block_of_opened at' next
  have hfresh : taken.lines.framesAt c.line = [] := by
    rw [(nextEvent_keeps next).2.2.1]
    exact orderly.fresh c (orderly.next_opened next).1
  rw [pending_eq, hempty] at hbody
  refine ⟨k, rest, rfl, hid, ?_⟩
  rw [handled_opened, ok]
  dsimp only
  rw [started_eq_told]
  exact ((serving_withSession at'.2.1 hid hempty hfresh hbody ok).told _ _).told _ _

end Serving

end Bridge

/-! ## Runs -/

/-- The blocks that are still to come. -/
def Stage.coming : Stage → List Block
  | .idle blocks => blocks
  | .active _ blocks => blocks

theorem Stage.Step.coming {st st' : Stage} {m : Option (Nat × String)} {v : Option BridgeEvent}
    (h : Step st m v st') : st'.coming <:+ st.coming := by
  cases h with
  | refused => exact List.suffix_cons _ _
  | started => exact List.suffix_cons _ _
  | _ => exact List.suffix_rfl

namespace Bridge

theorem run_append (before more : List Action) (b : Bridge) :
    b.run (before ++ more) = (b.run before).run more := by
  unfold run
  exact List.foldl_append

/-- The stage after some of the actions. -/
theorem at_run {st : Stage} (before : List Action) {more : List Action} {b : Bridge}
    (h : st.At b (before ++ more)) :
    ∃ st' : Stage, st'.At (b.run before) more ∧ st'.coming <:+ st.coming := by
  induction before generalizing st b with
  | nil => exact ⟨st, h, List.suffix_rfl⟩
  | cons a before ih =>
      obtain ⟨st', hstep, hat⟩ := b.step_act a h
      obtain ⟨last, hlast, hcoming⟩ := ih hat
      exact ⟨last, hlast, hcoming.trans hstep.coming⟩

/-- A connection can open only when there is no session. -/
theorem idle_of_opened {st : Stage} {b taken : Bridge} {as : List Action} {c : Connection}
    (h : st.At b as) (next : b.nextEvent = some (.opened c, taken)) :
    ∃ blocks, st = .idle blocks := by
  cases st with
  | idle blocks => exact ⟨blocks, rfl⟩
  | active k blocks =>
      obtain ⟨-, turn, -, pending⟩ := h
      rw [pending_of_next next] at pending
      rcases next_of_block turn pending with ⟨t, left, -, he, -⟩ | ⟨-, -, he, -⟩
      · cases he
      · cases he

/-- Every request of a server is answered exactly once and in order. With a transport that reports
a stream of blocks with different ids, and with readers that do not go away, take any connection
with which a session has been started. The responses on its line are, one for one and in order,
responses to the requests among the texts of its block that have been read, no matter whether the
handshake has read them or a poll. -/
theorem answered_of_run (e : Editor) (clientName : String) (as : List Action) (blocks : List Block)
    (distinct : (blocks.map Block.id).Nodup) (turn : InTurn blocks)
    (arrive : arrivals as = stream blocks) (live : ∀ a ∈ as, a.isLive = true) {b : Bridge}
    (reached : (ofEditor e clientName).run as = b) :
    ((ofEditor e clientName).startedIn as).map Connection.id
        = ((ofEditor e clientName).eventsOf as).filterMap BridgeEvent.startedId?
      ∧ ∀ c ∈ (ofEditor e clientName).startedIn as, ∃ k ∈ blocks, k.id = c.id
        ∧ ∃ consumed, k.texts = consumed ++ b.unread k.id
          ∧ List.Forall₂ Request.IsAnsweredBy (consumed.filterMap Request.read?)
            (Frame.replies (b.lines.framesAt c.line)) := by
  refine ⟨startedIn_map_id as _, fun c hc => ?_⟩
  obtain ⟨before, limit, more, taken, rfl, next, ok⟩ := split_of_mem_startedIn hc
  have hlive : ∀ a ∈ before, a.isLive = true := fun a ha => live a (List.mem_append_left _ ha)
  have hmore : ∀ a ∈ more, a.isLive = true := fun a ha =>
    live a (List.mem_append_right _ (List.mem_cons_of_mem _ ha))
  generalize hb : (ofEditor e clientName).run before = starting at next
  have horderly : Orderly clientName starting := by
    rw [← hb]
    exact (orderly_ofEditor e clientName).run before
  have hlines : starting.lines.Live := by
    rw [← hb]
    exact live_run before hlive fun l hl => absurd hl (Nat.not_lt_zero l)
  obtain ⟨st, hat, hcoming⟩ := at_run before (at_ofEditor e clientName turn arrive)
  rw [hb] at hat
  have hdispatch : st.At starting.dispatch more := by
    cases st <;> exact hat
  obtain ⟨coming, rfl⟩ := idle_of_opened hdispatch next
  obtain ⟨k, rest, rfl, hid, hserving⟩ := serving_started hdispatch horderly.dispatch next ok
  have hturn : InTurn (k :: rest) := hat.2.1
  have hother : k.id ∉ rest.map Block.id :=
    (List.nodup_cons.1 ((hcoming.sublist.map Block.id).nodup distinct)).1
  have hact : starting.act (.poll limit) = (taken.handled limit (.opened c)).2 :=
    congrArg Prod.snd (poll_of_next next)
  rw [← hact] at hserving
  have hline : c.line < (starting.act (.poll limit)).lines.length := by
    refine Nat.lt_of_lt_of_le ?_ (length_act _ starting)
    have hheld : c ∈ starting.dispatch.held :=
      List.mem_append_right _ (horderly.dispatch.next_opened next).1
    rw [held_dispatch] at hheld
    exact horderly.exists_line c hheld
  obtain ⟨consumed, htexts, hreplies⟩ := hserving.run hid hturn hother (horderly.act _)
    (live_act rfl hlines) hmore hline
  have hrun : (starting.act (.poll limit)).run more = b := by
    rw [← reached, ← hb, run_append]
    rfl
  rw [hrun] at htexts hreplies
  refine ⟨k, hcoming.subset List.mem_cons_self, hid.symm, consumed, htexts, ?_⟩
  have hmap : consumed.filterMap Rpc.reply?
      = (consumed.filterMap Request.read?).map Request.reply := by
    rw [List.map_filterMap]
    rfl
  rw [hreplies, hmap, List.forall₂_map_right_iff]
  exact List.forall₂_same.2 fun r _ => r.isAnsweredBy_reply

/-- A request that comes before the answer to the handshake, one behind it, and one that nobody
has read yet. -/
theorem answered_of_run_settings :
    ∃ as b k c, (ofEditor .sample "page").run as = b ∧ (ofEditor .sample "page").startedIn as = [c]
      ∧ arrivals as = stream [k] ∧ (b.unread k.id).length = 1
      ∧ ∃ consumed, k.texts = consumed ++ b.unread k.id
        ∧ (consumed.filterMap Request.read?).length = 2
        ∧ List.Forall₂ Request.IsAnsweredBy (consumed.filterMap Request.read?)
          (Frame.replies (b.lines.framesAt c.line)) := by
  generalize hask : "\x7b\"id\":\"a\",\"method\":\"workspace/configuration\"\x7d" = ask
  generalize hanswer : "\x7b\"id\":1,\"result\":null\x7d" = answer
  generalize hk : (⟨1, [ask, answer, ask, ask], false⟩ : Block) = k
  generalize has : [Action.signal (.opened 1 none), .signal (.message 1 ask),
    .signal (.message 1 answer), .poll none, .signal (.message 1 ask), .poll none,
    .signal (.message 1 ask)] = as
  generalize hb : (ofEditor .sample "page").run as = b
  have hstarted : (ofEditor .sample "page").startedIn as = [⟨1, 0⟩] := by
    rw [← has, ← hask, ← hanswer]
    cbv
  have hunread : b.unread k.id = [ask] := by
    rw [← hb, ← has, ← hk, ← hask, ← hanswer]
    cbv
  have hrequests : ([ask, answer, ask].filterMap Request.read?).length = 2 := by
    rw [← hask, ← hanswer]
    cbv
  have harrive : arrivals as = stream [k] := by
    rw [← has, ← hk]
    rfl
  have hlive : ∀ a ∈ as, a.isLive = true := by
    rw [← has]
    simp [Action.isLive]
  obtain ⟨-, hanswered⟩ := answered_of_run .sample "page" as [k] (List.nodup_singleton _)
    (List.pairwise_singleton _ _) harrive hlive hb
  obtain ⟨k', hk', -, consumed, htexts, hreplies⟩ := hanswered ⟨1, 0⟩ (by simp [hstarted])
  obtain rfl : k' = k := List.mem_singleton.1 hk'
  have hconsumed : consumed = [ask, answer, ask] := by
    rw [hunread, ← hk] at htexts
    have htexts : [ask, answer, ask] ++ [ask] = consumed ++ [ask] := htexts
    exact (List.append_cancel_right htexts).symm
  refine ⟨as, b, k', ⟨1, 0⟩, hb, hstarted, harrive, by rw [hunread]; rfl, consumed, htexts, ?_,
    hreplies⟩
  rw [hconsumed]
  exact hrequests

end Bridge

end SurfaceBridge
