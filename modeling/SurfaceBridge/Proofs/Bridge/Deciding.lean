import SurfaceBridge.Proofs.Bridge.Messages

set_option autoImplicit false

/-! # The event that decides a handshake

A handshake with a connection is decided by the first event that answers its request or closes the
connection. If the reader of the line stays and there is time for all events that wait, nothing else
ends it, so what comes of it can be read off the events: those before the deciding one are answered
if they are requests of the connection and put off if not, and those behind it are not read
(`Decided`, `decided_of_events`).

`await_of_quiet` carries the argument. It says what a wait makes of events that do not decide,
whatever follows them; what follows is then either nothing or an event that decides.
-/

namespace SurfaceBridge

open Rpc (Client Connection Frame Lines Message Request)
open Rpc.Lines (Lasting Queued)

/-! ## Events in a handshake -/

namespace Event

/-- Whether an event decides a handshake with connection `id`: it is the response to the request of
the handshake, or the end of the connection. -/
def decides (id : Nat) : Event → Bool
  | .message i text => i = id && answersGreeting text
  | .closed i => i = id
  | .opened _ => false

/-- The request in an event, if it is one of connection `id`. -/
def request? (id : Nat) : Event → Option Request
  | .message i text => if i = id then Request.read? text else none
  | _ => none

/-- Whether an event is the end of a connection. -/
def isClosed : Event → Bool
  | .closed _ => true
  | _ => false

theorem isQuiet_role (id : Nat) (e : Event) : (e.role id 1).isQuiet = !e.decides id := by
  by_cases h : e.id = id
  · subst h
    cases e with
    | opened c => rfl
    | message i text =>
        refine (isQuiet_message i text).trans ?_
        simp [decides, Event.id]
    | closed i => simp [role, decides, Event.id, Role.isQuiet]
  · rw [role_of_ne h]
    cases e with
    | opened c => rfl
    | message i text => simp [decides, Role.isQuiet, show i ≠ id from h]
    | closed i => simp [decides, Role.isQuiet, show i ≠ id from h]

/-- What does not decide gets the response to the request in it. -/
theorem reply?_role {id : Nat} {e : Event} (undecided : e.decides id = false) :
    (e.role id 1).reply? = (e.request? id).map Request.reply := by
  cases e with
  | opened c => rfl
  | message i text =>
      by_cases h : i = id
      · subst h
        have htext : answersGreeting text = false := by simpa [decides] using undecided
        rw [reply?_message i htext]
        simp [request?, Rpc.reply?]
      · simp [role, request?, h, Role.reply?]
  | closed i =>
      have h : i ≠ id := by simpa [decides] using undecided
      simp [role, request?, h, Role.reply?]

/-- What does not decide is put off unless there is a request in it. -/
theorem isOther_role {id : Nat} {e : Event} (undecided : e.decides id = false) :
    (e.role id 1).isOther = (e.request? id).isNone := by
  have hquiet : (e.role id 1).isQuiet = true := by rw [isQuiet_role, undecided]; rfl
  have hreply := reply?_role undecided
  cases hr : e.role id 1 with
  | answer m =>
      rw [hr] at hquiet
      cases hquiet
  | ending =>
      rw [hr] at hquiet
      cases hquiet
  | question f =>
      rw [hr] at hreply
      obtain ⟨r, hrequest, -⟩ := Option.map_eq_some_iff.1 hreply.symm
      simp [hrequest, Role.isOther]
  | other =>
      rw [hr] at hreply
      have hrequest : e.request? id = none := by simpa [Role.reply?] using hreply.symm
      simp [hrequest, Role.isOther]

end Event

/-- The events before the one that decides a handshake. -/
def undecided (id : Nat) (events : List Event) : List Event :=
  events.takeWhile fun e => !e.decides id

/-- The event that decides a handshake, and those behind it. -/
def fromDecision (id : Nat) (events : List Event) : List Event :=
  events.dropWhile fun e => !e.decides id

namespace Session

/-! ## The wait -/

section Wait

variable (c : Client) (n : Nat) (hungUp : Bool)

/-- What a wait makes of events that do not end it: it answers the questions and puts the others
off, and then it goes on with what follows. -/
theorem await_of_quiet {before : List Event}
    (quiet : ∀ d ∈ before, (d.role c.connection.id n).isQuiet = true) (rest : List Event)
    (limit : Option Nat) {lines : Lines} (live : Lasting c.connection.line lines)
    (inTime : ∀ k, limit = some k → before.length ≤ k) :
    ∃ lines', Queued c.connection.line
        (before.filterMap fun d => (d.role c.connection.id n).reply?) lines lines'
      ∧ Lasting c.connection.line lines'
      ∧ await c n hungUp (before ++ rest) limit lines
        = { await c n hungUp rest (limit.map (· - before.length)) lines' with
            putOff := (before.filter fun d => (d.role c.connection.id n).isOther)
              ++ (await c n hungUp rest (limit.map (· - before.length)) lines').putOff } := by
  induction before generalizing limit lines with
  | nil =>
      refine ⟨lines, Queued.refl _ _, live, ?_⟩
      cases limit <;> rfl
  | cons d before ih =>
      have hlimit : limit ≠ some 0 := by
        rintro rfl
        have hle := inTime 0 rfl
        simp at hle
      have hrest : ∀ k, limit.map (· - 1) = some k → before.length ≤ k := by
        intro k hk
        obtain ⟨k', rfl, rfl⟩ := Option.map_eq_some_iff.1 hk
        have hle := inTime k' rfl
        simp only [List.length_cons] at hle
        omega
      have hspent : limit.map (· - (d :: before).length)
          = (limit.map (· - 1)).map (· - before.length) := by
        cases limit with
        | none => rfl
        | some k =>
            simp only [Option.map_some, List.length_cons, Option.some.injEq]
            omega
      have hquiet : ∀ d ∈ before, (d.role c.connection.id n).isQuiet = true :=
        fun e he => quiet e (List.mem_cons_of_mem _ he)
      have hd := quiet d List.mem_cons_self
      rw [List.cons_append, await_cons c n hungUp hlimit, hspent]
      cases hr : d.role c.connection.id n with
      | answer m =>
          rw [hr] at hd
          cases hd
      | ending =>
          rw [hr] at hd
          cases hd
      | question f =>
          -- the reader stays, so the answer is accepted
          obtain ⟨replied, hsend, hlive⟩ := live.send f
          obtain ⟨lines', hq, hlast, hw⟩ := ih hquiet (limit.map (· - 1)) hlive hrest
          refine ⟨lines', ?_, hlast, ?_⟩
          · rw [List.filterMap_cons, hr]
            exact (Rpc.Lines.queued_of_send hsend).trans hq
          · simp only [(send_eq_ok c).2 hsend, hw]
            simp [hr, Role.isOther]
      | other =>
          obtain ⟨lines', hq, hlast, hw⟩ := ih hquiet (limit.map (· - 1)) live hrest
          refine ⟨lines', ?_, hlast, ?_⟩
          · rw [List.filterMap_cons, hr]
            exact hq
          · simp only [hw]
            simp [hr, Role.isOther]

end Wait

/-! ## The handshake -/

/-- The session of a connection on which the request of the handshake has been sent. -/
def greeted (c : Connection) : Session := { ofConnection c with client := greeter c }

/-- What a deciding event, or none, makes of a handshake with connection `c`: the session after it,
and its outcome. -/
inductive Verdict (c : Connection) (hungUp : Bool) :
    Option Event → Session → Except BridgeError Unit → Prop where
  /-- The server accepts, and says who it is. -/
  | accepted {text : String} {id : Json} {result : Option Json}
      (read : Message.read text = .ok (.response id result none)) :
      Verdict c hungUp (some (.message c.id text))
        { greeted c with
          serverInfo := serverInfoOf (result.getD .null)
          capabilities := ((result.getD .null).get? "capabilities").getD .null
          isStarted := true }
        (.ok ())
  /-- The server refuses. -/
  | refused {text : String} {id : Json} {result : Option Json} {e : Rpc.ResponseError}
      (read : Message.read text = .ok (.response id result (some e))) :
      Verdict c hungUp (some (.message c.id text)) (greeted c)
        (.error (.handshakeRefused e.message))
  /-- The connection closes. -/
  | closed : Verdict c hungUp (some (.closed c.id)) (greeted c) (.error (.connectionClosed c.id))
  /-- No event decides. -/
  | expired :
      Verdict c hungUp none (greeted c)
        (.error (if hungUp then .transportClosed else .timeout "initialize response"))

/-- What comes of a handshake with connection `c`. What is not read stands behind the deciding
event. What has been read before it is put off, except the requests of the connection, each of which
has got its response. The end of the connection is put off as well, and the confirmation is sent if
the session has started. -/
structure Decided (c : Connection) (clientName : String) (inbox : Inbox) (lines : Lines)
    (st : Start) : Prop where
  unread : st.unread = (fromDecision c.id inbox.events).tail
  putOff : st.putOff
    = ((undecided c.id inbox.events).filter fun e => (e.request? c.id).isNone)
      ++ ((fromDecision c.id inbox.events).head?.filter Event.isClosed).toList
  queued : ∃ replies,
    List.Forall₂ Request.IsAnsweredBy
        ((undecided c.id inbox.events).filterMap (Event.request? c.id)) replies
      ∧ Queued c.line
        (greeting clientName :: replies ++ if st.session.isStarted then [confirmation] else [])
        lines st.lines
  verdict : Verdict c inbox.hungUp (fromDecision c.id inbox.events).head? st.session st.outcome

theorem decides_of_mem_undecided {id : Nat} {events : List Event} :
    ∀ e ∈ undecided id events, e.decides id = false := by
  intro e he
  simpa using List.mem_takeWhile_imp (p := fun e : Event => !e.decides id) he

/-- The event behind those that do not decide is the answer or the end of the connection. -/
theorem role_of_fromDecision {id : Nat} {events after : List Event} {e : Event}
    (h : fromDecision id events = e :: after) :
    (∃ m, e.role id 1 = .answer m) ∨ e.role id 1 = .ending := by
  have hdecides : e.decides id = true := by
    have hhead := List.head?_dropWhile_not (fun e : Event => !e.decides id) events
    rw [show events.dropWhile (fun e => !e.decides id) = e :: after from h] at hhead
    simpa using hhead
  have hloud : (e.role id 1).isQuiet = false := by
    rw [Event.isQuiet_role, hdecides]
    rfl
  cases hr : e.role id 1 with
  | answer m => exact Or.inl ⟨m, rfl⟩
  | ending => exact Or.inr rfl
  | question f =>
      rw [hr] at hloud
      cases hloud
  | other =>
      rw [hr] at hloud
      cases hloud

/-- The wait of a handshake whose reader stays and which is in no hurry: it is the wait `w` from the
deciding event on, with the other events answered or put off before it. -/
theorem exists_startWait (c : Connection) (limit : Option Nat) (inbox : Inbox) {lines : Lines}
    (live : Lasting c.line lines) (patient : ∀ k, limit = some k → inbox.events.length < k) :
    ∃ (later : Option Nat) (replies : List Frame) (lines' : Lines) (w : Wait),
      later ≠ some 0
      ∧ List.Forall₂ Request.IsAnsweredBy
          ((undecided c.id inbox.events).filterMap (Event.request? c.id)) replies
      ∧ Queued c.line replies lines lines' ∧ Lasting c.line lines'
      ∧ w = await (greeter c) 1 inbox.hungUp (fromDecision c.id inbox.events) later lines'
      ∧ startWait c limit inbox lines
        = ⟨w.answer, ((undecided c.id inbox.events).filter fun e => (e.request? c.id).isNone)
            ++ w.putOff, w.unread, w.lines⟩ := by
  have hsplit : undecided c.id inbox.events ++ fromDecision c.id inbox.events = inbox.events :=
    List.takeWhile_append_dropWhile
  have hlength : (undecided c.id inbox.events).length ≤ inbox.events.length :=
    (List.takeWhile_sublist _).length_le
  have hquiet : ∀ d ∈ undecided c.id inbox.events, (d.role c.id 1).isQuiet = true := by
    intro d hd
    rw [Event.isQuiet_role, decides_of_mem_undecided d hd]
    rfl
  have hreplies : (undecided c.id inbox.events).filterMap
        (fun d => (d.role (greeter c).connection.id 1).reply?)
      = ((undecided c.id inbox.events).filterMap (Event.request? c.id)).map Request.reply := by
    rw [List.map_filterMap]
    exact List.filterMap_congr fun d hd => Event.reply?_role (decides_of_mem_undecided d hd)
  have hothers : (undecided c.id inbox.events).filter
        (fun d => (d.role (greeter c).connection.id 1).isOther)
      = (undecided c.id inbox.events).filter fun d => (d.request? c.id).isNone :=
    List.filter_congr fun d hd => Event.isOther_role (decides_of_mem_undecided d hd)
  have hinTime : ∀ k, limit = some k → (undecided c.id inbox.events).length ≤ k :=
    fun k hk => hlength.trans (patient k hk).le
  obtain ⟨lines', hq, hlast, hawait⟩ := await_of_quiet (greeter c) 1 inbox.hungUp hquiet
    (fromDecision c.id inbox.events) limit live hinTime
  rw [hsplit, hothers] at hawait
  rw [hreplies] at hq
  refine ⟨limit.map (· - (undecided c.id inbox.events).length), _, lines', _, ?_, ?_, hq, hlast,
    rfl, hawait⟩
  · intro hzero
    obtain ⟨k, rfl, hk⟩ := Option.map_eq_some_iff.1 hzero
    have hlt := patient k rfl
    omega
  · rw [List.forall₂_map_right_iff, List.forall₂_same]
    exact fun r _ => r.isAnsweredBy_reply

/-- A wait that begins with the deciding event, or with no event at all, ends at once. -/
theorem verdict_confirm (c : Connection) (hungUp : Bool) {events : List Event} {later : Option Nat}
    (inTime : later ≠ some 0) {lines : Lines} (live : Lasting c.line lines) (before : List Event)
    {w : Wait} (hw : w = await (greeter c) 1 hungUp (fromDecision c.id events) later lines)
    {st : Start}
    (hst : st = (greeted c).confirm ⟨w.answer, before ++ w.putOff, w.unread, w.lines⟩) :
    st.unread = (fromDecision c.id events).tail
      ∧ st.putOff = before ++ ((fromDecision c.id events).head?.filter Event.isClosed).toList
      ∧ Queued c.line (if st.session.isStarted then [confirmation] else []) lines st.lines
      ∧ Verdict c hungUp (fromDecision c.id events).head? st.session st.outcome := by
  cases hfrom : fromDecision c.id events with
  | nil =>
      rw [hfrom, await_nil (greeter c) 1 hungUp inTime] at hw
      subst hw hst
      exact ⟨rfl, rfl, Queued.refl _ _, .expired⟩
  | cons e after =>
      rw [hfrom, await_cons (greeter c) 1 hungUp inTime] at hw
      rcases role_of_fromDecision hfrom with ⟨m, hrole⟩ | hrole
      · have hanswered : w = ⟨.ok m, [], after, lines⟩ := by
          rw [hw, show e.role (greeter c).connection.id 1 = .answer m from hrole]
        subst hanswered
        obtain ⟨text, rfl, hread, hresponse⟩ := Event.exists_text_of_role hrole
        cases m with
        | request => cases hresponse
        | notification => cases hresponse
        | response id result error =>
            cases error with
            | some err =>
                subst hst
                exact ⟨rfl, rfl, Queued.refl _ _, .refused hread⟩
            | none =>
                -- the reader stays, so the confirmation is accepted
                obtain ⟨confirmed, hconfirm, -⟩ := live.send confirmation
                have hsend : (greeter c).send (.notification "initialized" (.object [])) lines
                    = .ok confirmed := (send_eq_ok (greeter c)).2 hconfirm
                simp only [Session.confirm, learn, greeted, hsend] at hst
                subst hst
                exact ⟨rfl, rfl, Rpc.Lines.queued_of_send hconfirm, .accepted hread⟩
      · have hended : w = ⟨.error (.connectionClosed c.id), [e], after, lines⟩ := by
          rw [hw, show e.role (greeter c).connection.id 1 = .ending from hrole]
          rfl
        subst hended
        obtain rfl := Event.eq_closed_of_role hrole
        subst hst
        exact ⟨rfl, rfl, Queued.refl _ _, .closed⟩

/-- A handshake whose reader stays and which is in no hurry comes to what its events decide. -/
theorem decided_start (c : Connection) (clientName : String) (limit : Option Nat) (inbox : Inbox)
    {lines : Lines} (live : Lasting c.line lines)
    (patient : ∀ k, limit = some k → inbox.events.length < k) :
    Decided c clientName inbox lines ((ofConnection c).start clientName limit inbox lines) := by
  obtain ⟨sent, greet, hsent⟩ := live.send (greeting clientName)
  obtain ⟨later, replies, waited, w, inTime, hanswered, hreplies, hwaited, hw, hwait⟩ :=
    exists_startWait c limit inbox hsent patient
  have hstart : (ofConnection c).start clientName limit inbox lines
      = (greeted c).confirm (startWait c limit inbox sent) := by
    rw [start_eq, greet]
    rfl
  rw [hwait] at hstart
  obtain ⟨hunread, hputOff, hconfirmed, hverdict⟩ :=
    verdict_confirm c inbox.hungUp inTime hwaited _ hw hstart
  have hgreeted := (Rpc.Lines.queued_of_send greet).trans hreplies
  exact ⟨hunread, hputOff, ⟨replies, hanswered, hgreeted.trans hconfirmed⟩, hverdict⟩

end Session

namespace Bridge

open Session (Decided)

theorem backlog_openSession (b : Bridge) (c : Connection) (limit : Option Nat) :
    (b.openSession c limit).2.backlog = b.backlog ++ (b.handshake c limit).putOff
      ∧ (b.openSession c limit).2.inbox
        = { b.inbox with events := (b.handshake c limit).unread } := by
  unfold openSession
  dsimp only
  split
  · exact ⟨rfl, rfl⟩
  · rw [sendSchemaState_eq, sendOptionState_eq]
    exact ⟨rfl, rfl⟩

/-- When a connection opens whose reader stays, and there is time for all events that wait, the
handshake comes to what these events decide. The events that were put off before stay in front of
those that the handshake puts off, and the transport keeps what stands behind the deciding event. -/
theorem decided_of_events (b : Bridge) (c : Connection) (limit : Option Nat)
    (live : Lasting c.line b.lines)
    (patient : ∀ k, limit = some k → b.inbox.events.length < k) :
    Decided c b.clientName b.inbox b.lines
        ((Session.ofConnection c).start b.clientName limit b.inbox b.lines)
      ∧ (b.openSession c limit).2.backlog
        = b.backlog
          ++ (((undecided c.id b.inbox.events).filter fun e => (e.request? c.id).isNone)
            ++ ((fromDecision c.id b.inbox.events).head?.filter Event.isClosed).toList)
      ∧ (b.openSession c limit).2.inbox
        = { b.inbox with events := (fromDecision c.id b.inbox.events).tail } := by
  have hdecided : Decided c b.clientName b.inbox b.lines (b.handshake c limit) :=
    Session.decided_start c b.clientName limit b.inbox live patient
  obtain ⟨hbacklog, hinbox⟩ := b.backlog_openSession c limit
  rw [hdecided.putOff] at hbacklog
  rw [hdecided.unread] at hinbox
  exact ⟨hdecided, hbacklog, hinbox⟩

/-- An end of the connection behind events of all kinds, with an answer that comes too late. -/
theorem decided_of_events_closed :
    ∃ (b : Bridge) (c : Connection) (limit : Option Nat),
      (Lasting c.line b.lines ∧ ∀ k, limit = some k → b.inbox.events.length < k)
        ∧ b.inbox.events = [.message 2 "", .message 1 "\x7b", .closed 2,
          .message 1 "\x7b\"id\":5,\"method\":\"a\"\x7d", .closed 1,
          .message 1 "\x7b\"id\":1,\"result\":null\x7d"]
        ∧ b.backlog = [.closed 7]
        ∧ (b.openSession c limit).2.backlog
          = [.closed 7, .message 2 "", .message 1 "\x7b", .closed 2, .closed 1]
        ∧ (b.openSession c limit).2.inbox.events
          = [.message 1 "\x7b\"id\":1,\"result\":null\x7d"] := by
  generalize hevents : [Event.message 2 "", .message 1 "\x7b", .closed 2,
    .message 1 "\x7b\"id\":5,\"method\":\"a\"\x7d", .closed 1,
    .message 1 "\x7b\"id\":1,\"result\":null\x7d"] = events
  have hundecided : (undecided 1 events).filter (fun e => (e.request? 1).isNone)
      = [.message 2 "", .message 1 "\x7b", .closed 2] := by
    rw [← hevents]
    cbv
  have hfrom : fromDecision 1 events
      = [.closed 1, .message 1 "\x7b\"id\":1,\"result\":null\x7d"] := by
    rw [← hevents]
    cbv
  generalize hb : { ofEditor .sample "page" with
    inbox := ⟨events, false⟩, backlog := [.closed 7], lines := [⟨1, [], none⟩] } = b
  have live : Lasting (Connection.mk 1 0).line b.lines := ⟨⟨1, [], none⟩, by rw [← hb]; rfl, rfl⟩
  have patient : ∀ k, some 7 = some k → b.inbox.events.length < k := by
    rintro k hk
    cases hk
    rw [← hb, ← hevents]
    decide
  obtain ⟨-, hbacklog, hinbox⟩ := decided_of_events b ⟨1, 0⟩ (some 7) live patient
  have hwaiting : b.inbox.events = events ∧ b.backlog = [.closed 7] := by
    rw [← hb]
    exact ⟨rfl, rfl⟩
  rw [hwaiting.1, hwaiting.2, hundecided, hfrom] at hbacklog
  rw [hwaiting.1, hfrom] at hinbox
  refine ⟨b, ⟨1, 0⟩, some 7, ⟨live, patient⟩, hwaiting.1, hwaiting.2, hbacklog, ?_⟩
  rw [hinbox]
  rfl

end Bridge

end SurfaceBridge
