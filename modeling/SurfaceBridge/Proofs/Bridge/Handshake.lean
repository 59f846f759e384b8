import SurfaceBridge.Bridge.Basic
import SurfaceBridge.Proofs.Rpc.Queueing

set_option autoImplicit false

/-! # The handshake

To a client that waits for the answer to its request, an event has one of four roles: it is the
answer, a question of the server, the end of the connection, or none of its business.
`Waited` says what a wait reads and what it puts off in terms of these roles; the other theorems
say what it queues, that it does not matter whether the reader of the line would go away later,
and that events which are none of its business take time and nothing else.
-/

namespace SurfaceBridge

open Rpc (Client Connection Frame Lines Message)
open Rpc.Lines (Queued)

/-- An answer to some request of a server. -/
def Rpc.Frame.IsAnswer (f : Frame) : Prop := ∃ id method params, f = .answer id method params

/-- What an event is to a client that waits. -/
inductive Role where
  | answer (m : Message)
  | question (reply : Frame)
  | ending
  | other

namespace Role

/-- Whether an event with this role is put off while the wait goes on. -/
def isOther : Role → Bool
  | .other => true
  | _ => false

/-- Whether the wait goes on after an event with this role, if its questions can be answered. -/
def isQuiet : Role → Bool
  | .question _ => true
  | .other => true
  | _ => false

end Role

/-- The role of a message of the own connection. -/
def Rpc.Message.role (n : Nat) (m : Message) : Role :=
  if m.isResponseTo n then .answer m
  else
    match m with
    | .request id method params => .question (.answer id method params)
    | _ => .other

/-- The role of an event to a client of connection `id` whose request has the number `n`. -/
def Event.role (id n : Nat) : Event → Role
  | .message i text =>
    if i = id then
      match Message.read text with
      | .error _ => .other
      | .ok m => m.role n
    else .other
  | .closed i => if i = id then .ending else .other
  | .opened _ => .other

theorem Event.role_of_ne {id n : Nat} {e : Event} (h : e.id ≠ id) : e.role id n = .other := by
  cases e with
  | opened c => rfl
  | message i text => exact if_neg h
  | closed i => exact if_neg h

theorem Event.id_of_role {id n : Nat} {e : Event} (h : e.role id n ≠ .other) : e.id = id := by
  refine Decidable.byContradiction fun hne => ?_
  exact h (Event.role_of_ne hne)

/-- Only an end of the connection ends a wait for good. -/
theorem Event.eq_closed_of_role {id n : Nat} {e : Event} (h : e.role id n = .ending) :
    e = .closed id := by
  have hid : e.id = id := Event.id_of_role (n := n) (by simp [h])
  cases e with
  | opened c => cases h
  | message i text =>
      simp only [Event.role, show i = id from hid, if_true] at h
      split at h
      · cases h
      · rename_i m _
        unfold Message.role at h
        split at h
        · cases h
        · split at h <;> cases h
  | closed i => exact congrArg Event.closed hid

theorem Event.exists_text_of_role {id n : Nat} {e : Event} {m : Message}
    (h : e.role id n = .answer m) :
    ∃ text, e = .message id text ∧ Message.read text = .ok m ∧ m.isResponseTo n = true := by
  have hid : e.id = id := Event.id_of_role (n := n) (by simp [h])
  cases e with
  | opened c => cases h
  | message i text =>
      obtain rfl : i = id := hid
      simp only [Event.role, if_true] at h
      split at h
      · cases h
      · rename_i m' hm
        unfold Message.role at h
        split at h
        · rename_i hr
          cases h
          exact ⟨text, rfl, hm, hr⟩
        · split at h <;> cases h
  | closed i =>
      simp only [Event.role] at h
      split at h <;> cases h

theorem Event.isAnswer_of_role {id n : Nat} {e : Event} {f : Frame}
    (h : e.role id n = .question f) : f.IsAnswer := by
  cases e with
  | opened c => cases h
  | message i text =>
      simp only [Event.role] at h
      split at h
      · split at h
        · cases h
        · unfold Message.role at h
          split at h
          · cases h
          · split at h
            · cases h
              exact ⟨_, _, _, rfl⟩
            · cases h
      · cases h
  | closed i =>
      simp only [Event.role] at h
      split at h <;> cases h

namespace Session

variable (c : Client) (n : Nat) (hungUp : Bool)

/-- What an event does to a waiting client, by its role. -/
theorem hear_eq (e : Event) (lines : Lines) :
    hear c n e lines =
      match e.role c.connection.id n with
      | .answer m => .answered m
      | .question f =>
        match c.send f lines with
        | .error err => .failed err
        | .ok lines => .replied lines
      | .ending => .hungUp
      | .other => .putOff := by
  cases e with
  | opened d => rfl
  | message i text =>
      simp only [hear, Event.role]
      split
      · unfold hearMessage
        cases Message.read text with
        | error err => rfl
        | ok m =>
            dsimp only
            unfold Message.role
            by_cases hr : m.isResponseTo n = true
            · simp [hr]
            · simp only [hr, Bool.false_eq_true, if_false]
              cases m <;> rfl
      · rfl
  | closed i =>
      simp only [hear, Event.role]
      split <;> rfl

theorem await_zero (events : List Event) (lines : Lines) :
    await c n hungUp events (some 0) lines = ⟨.error tooLate, [], events, lines⟩ := by
  cases events <;> rfl

theorem await_nil {limit : Option Nat} (h : limit ≠ some 0) (lines : Lines) :
    await c n hungUp [] limit lines
      = ⟨.error (if hungUp then .transportClosed else tooLate), [], [], lines⟩ := by
  cases limit with
  | none => rfl
  | some k =>
      cases k with
      | zero => exact absurd rfl h
      | succ k => rfl

theorem await_cons_hear {limit : Option Nat} (h : limit ≠ some 0) (e : Event)
    (events : List Event) (lines : Lines) :
    await c n hungUp (e :: events) limit lines =
      match hear c n e lines with
      | .answered m => ⟨.ok m, [], events, lines⟩
      | .failed err => ⟨.error err, [], events, lines⟩
      | .hungUp => ⟨.error (.connectionClosed c.connection.id), [e], events, lines⟩
      | .replied lines => await c n hungUp events (limit.map (· - 1)) lines
      | .putOff =>
        let w := await c n hungUp events (limit.map (· - 1)) lines
        { w with putOff := e :: w.putOff } := by
  cases limit with
  | none => rfl
  | some k =>
      cases k with
      | zero => exact absurd rfl h
      | succ k => rfl

theorem await_cons {limit : Option Nat} (h : limit ≠ some 0) (e : Event) (events : List Event)
    (lines : Lines) :
    await c n hungUp (e :: events) limit lines =
      match e.role c.connection.id n with
      | .answer m => ⟨.ok m, [], events, lines⟩
      | .question f =>
        match c.send f lines with
        | .error err => ⟨.error err, [], events, lines⟩
        | .ok lines => await c n hungUp events (limit.map (· - 1)) lines
      | .ending => ⟨.error (.connectionClosed c.connection.id), [e], events, lines⟩
      | .other =>
        let w := await c n hungUp events (limit.map (· - 1)) lines
        { w with putOff := e :: w.putOff } := by
  rw [await_cons_hear c n hungUp h, hear_eq]
  cases e.role c.connection.id n with
  | question f =>
      dsimp only
      cases c.send f lines <;> rfl
  | _ => rfl

theorem send_eq_ok {f : Frame} {lines lines' : Lines} :
    c.send f lines = .ok lines' ↔ lines.send c.connection f = some lines' := by
  unfold Client.send
  cases lines.send c.connection f <;> simp

/-- Induction along a wait: it stops, or the next event has one of the roles. -/
theorem await_induction {motive : List Event → Lines → Wait → Prop}
    (stopped : ∀ events lines err, motive events lines ⟨.error err, [], events, lines⟩)
    (answered : ∀ e events lines m, e.role c.connection.id n = .answer m →
      motive (e :: events) lines ⟨.ok m, [], events, lines⟩)
    (refused : ∀ e events lines f err, e.role c.connection.id n = .question f →
      motive (e :: events) lines ⟨.error err, [], events, lines⟩)
    (replied : ∀ e events lines lines' f w, e.role c.connection.id n = .question f →
      c.send f lines = .ok lines' → motive events lines' w → motive (e :: events) lines w)
    (ended : ∀ e events lines err, e.role c.connection.id n = .ending →
      motive (e :: events) lines ⟨.error err, [e], events, lines⟩)
    (other : ∀ e events lines w, e.role c.connection.id n = .other →
      motive events lines w → motive (e :: events) lines { w with putOff := e :: w.putOff })
    (events : List Event) (limit : Option Nat) (lines : Lines) :
    motive events lines (await c n hungUp events limit lines) := by
  induction events generalizing limit lines with
  | nil =>
      by_cases hl : limit = some 0
      · subst hl
        exact stopped [] lines _
      · rw [await_nil c n hungUp hl]
        exact stopped [] lines _
  | cons e events ih =>
      by_cases hl : limit = some 0
      · subst hl
        exact stopped (e :: events) lines _
      · rw [await_cons c n hungUp hl]
        cases hr : e.role c.connection.id n with
        | answer m => exact answered e events lines m hr
        | question f =>
            cases hs : c.send f lines with
            | error err =>
                simp only [hs]
                exact refused e events lines f err hr
            | ok lines' =>
                simp only [hs]
                exact replied e events lines lines' f _ hr hs (ih _ lines')
        | ending => exact ended e events lines _ hr
        | other => exact other e events lines _ hr (ih _ lines)

/-! ## What a wait reads and puts off -/

/-- What a wait for the answer to request `n` of connection `id` makes of the events: the answer
or the error, the events that are put off, and those that are not read. The events before the
one that decides are quiet, and those of them that are no questions are put off. -/
inductive Waited (id n : Nat) (events : List Event) :
    Except BridgeError Message → List Event → List Event → Prop where
  | answered {before after : List Event} {e : Event} {m : Message}
      (split : events = before ++ e :: after)
      (quiet : ∀ d ∈ before, (d.role id n).isQuiet = true)
      (role : e.role id n = .answer m) :
      Waited id n events (.ok m) (before.filter fun d => (d.role id n).isOther) after
  | refused {before after : List Event} {e : Event} {f : Frame} {err : BridgeError}
      (split : events = before ++ e :: after)
      (quiet : ∀ d ∈ before, (d.role id n).isQuiet = true)
      (role : e.role id n = .question f) :
      Waited id n events (.error err) (before.filter fun d => (d.role id n).isOther) after
  | ended {before after : List Event} {e : Event} {err : BridgeError}
      (split : events = before ++ e :: after)
      (quiet : ∀ d ∈ before, (d.role id n).isQuiet = true)
      (role : e.role id n = .ending) :
      Waited id n events (.error err) ((before.filter fun d => (d.role id n).isOther) ++ [e]) after
  | stopped {before after : List Event} {err : BridgeError}
      (split : events = before ++ after)
      (quiet : ∀ d ∈ before, (d.role id n).isQuiet = true) :
      Waited id n events (.error err) (before.filter fun d => (d.role id n).isOther) after

/-- A wait that first reads one more quiet event. -/
theorem Waited.cons {id n : Nat} {e : Event} {events putOff unread : List Event}
    {answer : Except BridgeError Message} (quiet : (e.role id n).isQuiet = true)
    (h : Waited id n events answer putOff unread) :
    Waited id n (e :: events) answer
      ((if (e.role id n).isOther then [e] else []) ++ putOff) unread := by
  have hmem : ∀ before : List Event, (∀ d ∈ before, (d.role id n).isQuiet = true) →
      ∀ d ∈ e :: before, (d.role id n).isQuiet = true := by
    intro before hb d hd
    rcases List.mem_cons.1 hd with rfl | hd
    · exact quiet
    · exact hb d hd
  -- the event is put off in front of the others, or it was a question
  have hfilter : ∀ before : List Event,
      (if (e.role id n).isOther then [e] else []) ++ (before.filter fun d => (d.role id n).isOther)
        = (e :: before).filter fun d => (d.role id n).isOther := by
    intro before
    by_cases ho : (e.role id n).isOther = true <;> simp [ho]
  cases h with
  | answered split hq role =>
      rw [hfilter]
      exact .answered (by rw [split]; rfl) (hmem _ hq) role
  | refused split hq role =>
      rw [hfilter]
      exact .refused (by rw [split]; rfl) (hmem _ hq) role
  | ended split hq role =>
      rw [← List.append_assoc, hfilter]
      exact .ended (by rw [split]; rfl) (hmem _ hq) role
  | stopped split hq =>
      rw [hfilter]
      exact .stopped (by rw [split]; rfl) (hmem _ hq)

theorem waited_await (events : List Event) (limit : Option Nat) (lines : Lines) :
    Waited c.connection.id n events (await c n hungUp events limit lines).answer
      (await c n hungUp events limit lines).putOff
      (await c n hungUp events limit lines).unread := by
  refine await_induction c n hungUp
    (motive := fun events _ w => Waited c.connection.id n events w.answer w.putOff w.unread)
    ?stopped ?answered ?refused ?replied ?ended ?other events limit lines
  case stopped =>
      intro events lines err
      exact @Waited.stopped _ _ _ [] _ _ rfl (by simp)
  case answered =>
      intro e events lines m hr
      exact @Waited.answered _ _ _ [] _ _ _ rfl (by simp) hr
  case refused =>
      intro e events lines f err hr
      exact @Waited.refused _ _ _ [] _ _ _ _ rfl (by simp) hr
  case replied =>
      intro e events lines lines' f w hr _ ih
      have h := ih.cons (e := e) (by rw [hr]; rfl)
      rwa [hr] at h
  case ended =>
      intro e events lines err hr
      exact @Waited.ended _ _ _ [] _ _ _ rfl (by simp) hr
  case other =>
      intro e events lines w hr ih
      have h := ih.cons (e := e) (by rw [hr]; rfl)
      rwa [hr] at h

/-! ## What a wait queues -/

/-- A wait queues answers, and only on its own line. -/
theorem queued_await (events : List Event) (limit : Option Nat) (lines : Lines) :
    ∃ fs, (∀ f ∈ fs, f.IsAnswer)
      ∧ Queued c.connection.line fs lines (await c n hungUp events limit lines).lines := by
  have none : ∀ lines : Lines, ∃ fs : List Frame, (∀ f ∈ fs, f.IsAnswer)
      ∧ Queued c.connection.line fs lines lines :=
    fun lines => ⟨[], by simp, Queued.refl _ _⟩
  refine await_induction c n hungUp
    (motive := fun _ lines w => ∃ fs, (∀ f ∈ fs, f.IsAnswer)
      ∧ Queued c.connection.line fs lines w.lines)
    ?stopped ?answered ?refused ?replied ?ended ?other events limit lines
  case stopped => exact fun _ lines _ => none lines
  case answered => exact fun _ _ lines _ _ => none lines
  case refused => exact fun _ _ lines _ _ _ => none lines
  case replied =>
      intro e events lines lines' f w hr hs ih
      obtain ⟨fs, hfs, hq⟩ := ih
      have hf := Rpc.Lines.queued_of_send ((send_eq_ok c).1 hs)
      refine ⟨[f] ++ fs, fun g hg => ?_, hf.trans hq⟩
      rcases List.mem_append.1 hg with hg | hg
      · rw [List.mem_singleton.1 hg]
        exact Event.isAnswer_of_role hr
      · exact hfs g hg
  case ended => exact fun _ _ lines _ _ => none lines
  case other => exact fun _ _ _ _ _ ih => ih

/-- A wait that ends with an answer goes on as it did if a reader does not go away. -/
theorem await_keepReading (l : Nat) (events : List Event) (limit : Option Nat) (lines : Lines)
    {m : Message} (h : (await c n hungUp events limit lines).answer = .ok m) :
    await c n hungUp events limit (lines.keepReading l)
      = { await c n hungUp events limit lines with
          lines := (await c n hungUp events limit lines).lines.keepReading l } := by
  induction events generalizing limit lines with
  | nil =>
      by_cases hl : limit = some 0
      · subst hl
        rw [await_zero] at h
        cases h
      · rw [await_nil c n hungUp hl] at h
        cases h
  | cons e events ih =>
      by_cases hl : limit = some 0
      · subst hl
        rw [await_zero] at h
        cases h
      · rw [await_cons c n hungUp hl] at h ⊢
        rw [await_cons c n hungUp hl]
        cases hr : e.role c.connection.id n with
        | answer m' => rfl
        | question f =>
            simp only [hr] at h
            cases hs : c.send f lines with
            | error err =>
                rw [hs] at h
                cases h
            | ok lines' =>
                have hk : c.send f (lines.keepReading l) = .ok (lines'.keepReading l) :=
                  (send_eq_ok c).2 (Rpc.Lines.send_keepReading l ((send_eq_ok c).1 hs))
                rw [hs] at h
                dsimp only
                rw [hk, hs]
                exact ih (limit.map (· - 1)) lines' h
        | ending =>
            simp only [hr] at h
            cases h
        | other =>
            simp only [hr] at h
            dsimp only
            rw [ih (limit.map (· - 1)) lines h]

/-- Time that is spent before an event could as well be spent after it. -/
theorem spend_later {limit : Option Nat} (h : limit ≠ some 0) (spent : Nat) :
    ∃ spent', limit.map (· - spent') ≠ some 0
      ∧ (limit.map (· - spent')).map (· - 1) = (limit.map (· - 1)).map (· - spent) := by
  cases limit with
  | none => exact ⟨0, by simp, rfl⟩
  | some k =>
      have hk : 0 < k := Nat.pos_of_ne_zero fun h0 => h (congrArg some h0)
      refine ⟨min spent (k - 1), ?_, ?_⟩
      · rw [Option.map_some, ne_eq, Option.some.injEq]
        omega
      · simp only [Option.map_some, Option.some.injEq]
        omega

/-- Events that are none of the business of a wait take time and nothing else: without them it
comes to the same in less time. -/
theorem await_filter (keep : Event → Bool)
    (other : ∀ e, keep e = false → e.role c.connection.id n = .other)
    (events : List Event) (limit : Option Nat) (lines : Lines) :
    ∃ spent, await c n hungUp (events.filter keep) (limit.map (· - spent)) lines =
      { await c n hungUp events limit lines with
        putOff := (await c n hungUp events limit lines).putOff.filter keep
        unread := (await c n hungUp events limit lines).unread.filter keep } := by
  have hzero : ∀ limit : Option Nat, limit.map (· - 0) = limit := by
    intro limit
    cases limit <;> rfl
  induction events generalizing limit lines with
  | nil =>
      refine ⟨0, ?_⟩
      rw [hzero]
      by_cases hl : limit = some 0
      · subst hl
        simp [await_zero]
      · simp [await_nil c n hungUp hl]
  | cons e events ih =>
      by_cases hl : limit = some 0
      · subst hl
        exact ⟨0, by simp [await_zero]⟩
      · rw [await_cons c n hungUp hl]
        cases hk : keep e with
        | false =>
            obtain ⟨spent, h⟩ := ih (limit.map (· - 1)) lines
            refine ⟨spent + 1, ?_⟩
            -- the event that is left out has taken its own time
            have hspent : limit.map (· - (spent + 1)) = (limit.map (· - 1)).map (· - spent) := by
              cases limit with
              | none => rfl
              | some k =>
                  simp only [Option.map_some, Option.some.injEq]
                  omega
            rw [List.filter_cons_of_neg (by simp [hk]), hspent, h, other e hk]
            simp [hk]
        | true =>
            rw [List.filter_cons_of_pos hk]
            cases hr : e.role c.connection.id n with
            | answer m =>
                refine ⟨0, ?_⟩
                rw [hzero, await_cons c n hungUp hl, hr]
                simp
            | question f =>
                cases hs : c.send f lines with
                | error err =>
                    refine ⟨0, ?_⟩
                    rw [hzero, await_cons c n hungUp hl, hr]
                    simp [hs]
                | ok lines' =>
                    obtain ⟨spent, h⟩ := ih (limit.map (· - 1)) lines'
                    -- both read this event, and the time for the others is spent behind it
                    obtain ⟨spent', hne, heq⟩ := spend_later hl spent
                    refine ⟨spent', ?_⟩
                    rw [await_cons c n hungUp hne, hr, heq]
                    simp only [hs]
                    exact h
            | ending =>
                refine ⟨0, ?_⟩
                rw [hzero, await_cons c n hungUp hl, hr]
                simp [hk]
            | other =>
                obtain ⟨spent, h⟩ := ih (limit.map (· - 1)) lines
                obtain ⟨spent', hne, heq⟩ := spend_later hl spent
                refine ⟨spent', ?_⟩
                rw [await_cons c n hungUp hne, hr, heq]
                dsimp only
                rw [h]
                simp [hk]

/-! ## The whole handshake -/

/-- The request that begins a handshake. -/
def greeting (clientName : String) : Frame := .request 1 "initialize" (introduction clientName)

/-- The notification that ends a handshake. -/
def confirmation : Frame := .notification "initialized" (.object [])

/-- The client of a connection on which one request has been queued. -/
def greeter (c : Connection) : Client := (Client.ofConnection c).advance

/-- The wait of a handshake whose request has been queued. -/
def startWait (c : Connection) (limit : Option Nat) (inbox : Inbox) (lines : Lines) : Wait :=
  await (greeter c) 1 inbox.hungUp inbox.events limit lines

theorem client_of_learn {s s' : Session} {m : Message} (h : s.learn m = .ok s') :
    s'.client = s.client := by
  unfold learn at h
  split at h
  · cases h
  · cases h
    rfl
  · cases h
    rfl

variable (c : Connection) (clientName : String) (limit : Option Nat) (inbox : Inbox)
variable (lines : Lines)

/-- What can come of a handshake: its request is not accepted, or it fails later on, or it
succeeds with a confirmation as the last frame. -/
inductive Handshake : Start → Prop where
  | unsent {s : Session} {err : BridgeError} (connection : s.client.connection = c)
      (unread : lines.send c (greeting clientName) = none) :
      Handshake ⟨s, .error err, [], inbox.events, lines⟩
  | failed {greeted : Lines} {s : Session} {err : BridgeError}
      (connection : s.client.connection = c)
      (greet : lines.send c (greeting clientName) = some greeted) :
      Handshake ⟨s, .error err, (startWait c limit inbox greeted).putOff,
        (startWait c limit inbox greeted).unread, (startWait c limit inbox greeted).lines⟩
  | started {greeted after : Lines} {s : Session} {m : Message}
      (connection : s.client.connection = c) (isStarted : s.isStarted = true)
      (greet : lines.send c (greeting clientName) = some greeted)
      (answer : (startWait c limit inbox greeted).answer = .ok m)
      (confirm : (startWait c limit inbox greeted).lines.send c confirmation = some after) :
      Handshake ⟨s, .ok (), (startWait c limit inbox greeted).putOff,
        (startWait c limit inbox greeted).unread, after⟩

theorem start_eq :
    (ofConnection c).start clientName limit inbox lines =
      match lines.send c (greeting clientName) with
      | none =>
        ⟨{ ofConnection c with client := greeter c }, .error (.connectionClosed c.id), [],
          inbox.events, lines⟩
      | some greeted =>
        confirm { ofConnection c with client := greeter c } (startWait c limit inbox greeted) := by
  have hn : Frame.request (ofConnection c).client.nextId "initialize" (introduction clientName)
      = greeting clientName := rfl
  have hc : (ofConnection c).client.connection = c := rfl
  simp only [start, Client.request, Client.send, hn, hc]
  cases lines.send c (greeting clientName) <;> rfl

theorem handshake_start :
    Handshake c clientName limit inbox lines
      ((ofConnection c).start clientName limit inbox lines) := by
  rw [start_eq]
  cases hg : lines.send c (greeting clientName) with
  | none => exact .unsent rfl hg
  | some greeted =>
      show Handshake c clientName limit inbox lines
        (confirm { ofConnection c with client := greeter c } (startWait c limit inbox greeted))
      unfold confirm
      split
      · exact .failed rfl hg
      · rename_i m hm
        split
        · exact .failed rfl hg
        · rename_i s hs
          have hclient : s.client.connection = c := congrArg Client.connection (client_of_learn hs)
          split
          · exact .failed hclient hg
          · rename_i after hsend
            refine .started hclient rfl hg hm ?_
            rw [send_eq_ok, hclient] at hsend
            exact hsend

theorem waited_startWait :
    Waited c.id 1 inbox.events (startWait c limit inbox lines).answer
      (startWait c limit inbox lines).putOff (startWait c limit inbox lines).unread :=
  waited_await (greeter c) 1 inbox.hungUp inbox.events limit lines

variable {c clientName limit inbox lines}

namespace Handshake

variable {st : Start}

/-- The session of a handshake runs on the connection that the handshake was about. -/
theorem connection (h : Handshake c clientName limit inbox lines st) :
    st.session.client.connection = c := by
  cases h <;> assumption

theorem isStarted (h : Handshake c clientName limit inbox lines st) (ok : st.outcome = .ok ()) :
    st.session.isStarted = true := by
  cases h with
  | unsent => cases ok
  | failed => cases ok
  | started _ isStarted => exact isStarted

/-- What a handshake reads and puts off; one that succeeds has got its answer. -/
theorem waited (h : Handshake c clientName limit inbox lines st) :
    ∃ answer, Waited c.id 1 inbox.events answer st.putOff st.unread
      ∧ (st.outcome = .ok () → ∃ m, answer = .ok m) := by
  cases h with
  | unsent =>
      exact ⟨.error .transportClosed, @Waited.stopped _ _ _ [] _ _ rfl (by simp),
        fun ok => by cases ok⟩
  | failed => exact ⟨_, waited_startWait _ _ _ _, fun ok => by cases ok⟩
  | started _ _ _ answer => exact ⟨_, waited_startWait _ _ _ _, fun _ => ⟨_, answer⟩⟩

/-- What a handshake queues, on its own line only: nothing if its request is not accepted, else the
request and answers, and if it succeeds, the confirmation behind them. -/
theorem queued (h : Handshake c clientName limit inbox lines st) :
    ∃ fs, Queued c.line fs lines st.lines
      ∧ ((∃ err, st.outcome = .error err) ∧ lines.send c (greeting clientName) = none ∧ fs = []
        ∨ (∃ err, st.outcome = .error err)
          ∧ (∃ answers, (∀ f ∈ answers, f.IsAnswer) ∧ fs = greeting clientName :: answers)
        ∨ st.outcome = .ok ()
          ∧ ∃ answers, (∀ f ∈ answers, f.IsAnswer)
            ∧ fs = greeting clientName :: answers ++ [confirmation]) := by
  cases h with
  | unsent _ unread => exact ⟨[], Queued.refl _ _, Or.inl ⟨⟨_, rfl⟩, unread, rfl⟩⟩
  | @failed greeted _ _ _ greet =>
      obtain ⟨answers, ha, hq⟩ := queued_await (greeter c) 1 inbox.hungUp inbox.events limit greeted
      exact ⟨_, (Rpc.Lines.queued_of_send greet).trans hq,
        Or.inr (Or.inl ⟨⟨_, rfl⟩, answers, ha, rfl⟩)⟩
  | @started greeted _ _ _ _ _ greet _ confirm =>
      obtain ⟨answers, ha, hq⟩ := queued_await (greeter c) 1 inbox.hungUp inbox.events limit greeted
      exact ⟨_,
        ((Rpc.Lines.queued_of_send greet).trans hq).trans (Rpc.Lines.queued_of_send confirm),
        Or.inr (Or.inr ⟨rfl, answers, ha, rfl⟩)⟩

end Handshake

@[simp] theorem putOff_confirm (s : Session) (w : Wait) : (s.confirm w).putOff = w.putOff := by
  unfold confirm
  split
  · rfl
  · split
    · rfl
    · split <;> rfl

@[simp] theorem unread_confirm (s : Session) (w : Wait) : (s.confirm w).unread = w.unread := by
  unfold confirm
  split
  · rfl
  · split
    · rfl
    · split <;> rfl

theorem confirm_of_events (s : Session) (w : Wait) (putOff unread : List Event) :
    s.confirm { w with putOff := putOff, unread := unread }
      = { s.confirm w with putOff := putOff, unread := unread } := by
  unfold confirm
  dsimp only
  cases w.answer with
  | error err => rfl
  | ok m =>
      dsimp only
      cases s.learn m with
      | error err => rfl
      | ok s' =>
          dsimp only
          cases s'.client.send (.notification "initialized" (.object [])) w.lines <;> rfl

/-- A handshake that succeeds goes on as it did if a reader does not go away. -/
theorem start_keepReading (l : Nat)
    (ok : ((ofConnection c).start clientName limit inbox lines).outcome = .ok ()) :
    (ofConnection c).start clientName limit inbox (lines.keepReading l)
      = { (ofConnection c).start clientName limit inbox lines with
          lines := ((ofConnection c).start clientName limit inbox lines).lines.keepReading l } := by
  rw [start_eq] at ok ⊢
  rw [start_eq]
  cases hg : lines.send c (greeting clientName) with
  | none =>
      rw [hg] at ok
      cases ok
  | some greeted =>
      rw [hg] at ok
      rw [Rpc.Lines.send_keepReading l hg]
      dsimp only at ok ⊢
      cases ha : (startWait c limit inbox greeted).answer with
      | error err =>
          simp only [confirm, ha] at ok
          cases ok
      | ok m =>
          -- the wait has got its answer, so none of its own replies was refused
          have hw : startWait c limit inbox (greeted.keepReading l)
              = { startWait c limit inbox greeted with
                  lines := (startWait c limit inbox greeted).lines.keepReading l } :=
            await_keepReading (greeter c) 1 inbox.hungUp l inbox.events limit greeted ha
          rw [hw]
          simp only [confirm, ha] at ok ⊢
          split at ok
          · cases ok
          · rename_i s hs
            split at ok
            · cases ok
            · rename_i after hsend
              have hk := (send_eq_ok s.client).2
                (Rpc.Lines.send_keepReading l ((send_eq_ok s.client).1 hsend))
              simp only [hk]

/-- A handshake takes no notice of events that are none of its business, except that it takes
time to read them. -/
theorem start_filter (keep : Event → Bool)
    (other : ∀ e, keep e = false → e.role c.id 1 = .other) :
    ∃ spent, (ofConnection c).start clientName (limit.map (· - spent))
        { inbox with events := inbox.events.filter keep } lines
      = { (ofConnection c).start clientName limit inbox lines with
          putOff := ((ofConnection c).start clientName limit inbox lines).putOff.filter keep
          unread := ((ofConnection c).start clientName limit inbox lines).unread.filter keep } := by
  cases hg : lines.send c (greeting clientName) with
  | none => exact ⟨0, by simp [start_eq, hg]⟩
  | some greeted =>
      obtain ⟨spent, hw⟩ :=
        await_filter (greeter c) 1 inbox.hungUp keep other inbox.events limit greeted
      refine ⟨spent, ?_⟩
      simp only [start_eq, hg, startWait]
      rw [hw, confirm_of_events]
      simp

end Session

end SurfaceBridge
