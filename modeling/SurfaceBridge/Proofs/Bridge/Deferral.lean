import SurfaceBridge.Proofs.Bridge.Replies

set_option autoImplicit false

/-! # Deferral

The messages of a connection can be read by its handshake, which puts most of them off, or after
it. Nobody can tell which: `accepting` describes what comes of a connection with the answer to its
handshake anywhere among its other messages, and the place of the answer does not occur in this
description.

The description is built on `heedAll`, in which every message is handled when its turn comes. A
bridge that is drained follows it (`drain_messages`). Requests can be left out of it: what they
come to are responses, and these are sent in the order of the requests in any case.

Other events may wait when the connection opens, and even other connections. Their handshakes have
their answers in front of the new events, or else they are too late (`poll_followedBy`).
-/

namespace SurfaceBridge

open Rpc (Client Connection Frame Lines Message Request)
open Rpc.Lines (Lasting Queued)

/-- What a poll returns. -/
abbrev PollResult := Except BridgeError (Option BridgeEvent)

/-- Whether a poll has something to say. -/
def PollResult.isNews : PollResult → Bool
  | .ok none => false
  | _ => true

namespace Bridge

/-! ## Draining -/

variable {limit : Option Nat} {b taken after : Bridge} {e : Event} {result : PollResult}

theorem waiting_handling (h : Handling limit b e result after) :
    after.waiting.Sublist b.waiting := by
  cases h with
  | refused => exact waiting_afterHandshake b _ limit
  | started =>
      rw [started_eq_told]
      exact waiting_afterHandshake b _ limit
  | _ => exact List.Sublist.refl _

/-- A poll handles something of what waits. -/
theorem waiting_poll (limit : Option Nat) (next : b.dispatch.nextEvent = some (e, taken)) :
    b.waiting = e :: taken.waiting ∧ (b.poll limit).2.waiting.Sublist taken.waiting := by
  refine ⟨(nextEvent_eq_some next).1, ?_⟩
  rw [poll_of_next next]
  exact waiting_handling (handling_handled limit taken e)

theorem opening_poll (limit : Option Nat) (b : Bridge) :
    (b.poll limit).2.opening.Sublist b.opening := by
  cases next : b.dispatch.nextEvent with
  | none =>
      rw [poll_of_none next]
      exact List.Sublist.refl _
  | some p =>
      obtain ⟨hwaiting, hsub⟩ := waiting_poll limit next
      have hall : (b.poll limit).2.waiting.Sublist b.waiting := by
        rw [hwaiting]
        exact hsub.trans (List.sublist_cons_self _ _)
      exact hall.filterMap Event.connection?

theorem exists_next_of_waiting (h : b.waiting ≠ []) :
    ∃ e taken, b.dispatch.nextEvent = some (e, taken) := by
  cases hn : b.dispatch.nextEvent with
  | none => exact absurd (waiting_of_none hn) h
  | some p => exact ⟨p.1, p.2, rfl⟩

theorem length_waiting_poll (limit : Option Nat) (h : b.waiting ≠ []) :
    (b.poll limit).2.waiting.length < b.waiting.length := by
  obtain ⟨e, taken, next⟩ := exists_next_of_waiting h
  obtain ⟨hwaiting, hsub⟩ := waiting_poll limit next
  rw [hwaiting]
  exact Nat.lt_succ_of_le hsub.length_le

/-- Polls until nothing waits, and once more: what the polls return, and the bridge after them. -/
def drain (limit : Option Nat) (b : Bridge) : List PollResult × Bridge :=
  if _ : b.waiting = [] then ([(b.poll limit).1], (b.poll limit).2)
  else
    ((b.poll limit).1 :: ((b.poll limit).2.drain limit).1, ((b.poll limit).2.drain limit).2)
termination_by b.waiting.length
decreasing_by all_goals exact length_waiting_poll limit (by assumption)

theorem drain_of_empty (limit : Option Nat) (h : b.waiting = []) :
    b.drain limit = ([(b.poll limit).1], (b.poll limit).2) := by
  rw [drain, dif_pos h]

theorem drain_of_waiting (limit : Option Nat) (h : b.waiting ≠ []) :
    b.drain limit
      = ((b.poll limit).1 :: ((b.poll limit).2.drain limit).1,
        ((b.poll limit).2.drain limit).2) := by
  rw [drain, dif_neg h]

/-! ## What waits before a connection opens -/

/-- No handshake is too late when the bridge is polled, however often. -/
def InTime (limit : Option Nat) (b : Bridge) : Prop :=
  ∀ n c taken,
    (b.run (List.replicate n (.poll limit))).dispatch.nextEvent = some (.opened c, taken) →
      (taken.handshake c limit).outcome ≠ .error Session.tooLate

theorem InTime.decided (h : b.InTime limit) {c : Connection}
    (next : b.dispatch.nextEvent = some (.opened c, taken)) :
    (taken.handshake c limit).outcome ≠ .error Session.tooLate := h 0 c taken next

theorem InTime.poll (h : b.InTime limit) : (b.poll limit).2.InTime limit := fun n => h (n + 1)

/-- Without a connection that waits to be opened, nothing is too late. -/
theorem inTime_of_unopened (limit : Option Nat) (unopened : b.opening = []) : b.InTime limit := by
  intro n c taken next
  have hnone : (b.run (List.replicate n (.poll limit))).opening = [] := by
    clear next
    induction n generalizing b with
    | zero => exact unopened
    | succ n ih =>
        refine ih (b := b.act (.poll limit)) ?_
        exact List.sublist_nil.1 (unopened ▸ opening_poll limit b)
  have hwaiting : (b.run (List.replicate n (.poll limit))).waiting = .opened c :: taken.waiting :=
    (nextEvent_eq_some next).1
  rw [opening, hwaiting] at hnone
  cases hnone

/-- A handshake that succeeds is not too late, and if no other connection waits, that is all. -/
theorem inTime_of_started {c : Connection} (next : b.dispatch.nextEvent = some (.opened c, taken))
    (ok : (taken.handshake c limit).outcome = .ok ()) (unopened : taken.opening = []) :
    b.InTime limit := by
  intro n
  cases n with
  | zero =>
      intro c' taken' next'
      obtain ⟨hc, rfl⟩ := Prod.mk.inj (Option.some.inj (next.symm.trans next'))
      cases hc
      rw [ok]
      simp
  | succ n =>
      refine inTime_of_unopened limit ?_ n
      exact List.sublist_nil.1 (unopened ▸ (waiting_poll limit next).2.filterMap Event.connection?)

/-- The bridge with more events behind those that wait. -/
def followedBy (es : List Event) (b : Bridge) : Bridge :=
  { b with inbox := { b.inbox with events := b.inbox.events ++ es } }

theorem waiting_followedBy (es : List Event) (b : Bridge) :
    (b.followedBy es).waiting = b.waiting ++ es := (List.append_assoc ..).symm

theorem nextEvent_followedBy (es : List Event) (next : b.nextEvent = some (e, taken)) :
    (b.followedBy es).nextEvent = some (e, taken.followedBy es) := by
  unfold nextEvent at next
  split at next
  · rename_i rest hb
    cases next
    simp [nextEvent, followedBy, hb]
  · rename_i rest hb hi
    cases next
    simp [nextEvent, followedBy, hb, hi]
  · cases next

/-- Only a handshake looks at what follows, and if it is not too late it does not get there. -/
theorem handled_followedBy (limit : Option Nat) {es : List Event}
    (reporting : b.inbox.hungUp = false)
    (others : ∀ c, e = .opened c → ∀ d ∈ es, d.role c.id 1 = .other)
    (inTime : ∀ c, e = .opened c →
      ((b.followedBy es).handshake c limit).outcome ≠ .error Session.tooLate) :
    (b.followedBy es).handled limit e
      = ((b.handled none e).1, (b.handled none e).2.followedBy es) := by
  by_cases old : b.IsStale e
  · have old' : (b.followedBy es).IsStale e := old
    rw [handled_stale old, handled_stale old']
  · rcases eq_of_not_isStale old with ⟨c, rfl⟩ | ⟨s, hs, rfl | ⟨text, rfl⟩⟩
    · have hhandshake : (b.followedBy es).handshake c limit
          = { b.handshake c none with unread := (b.handshake c none).unread ++ es } :=
        Session.start_followed reporting (others c rfl) (inTime c rfl)
      have hafter : (b.followedBy es).afterHandshake c limit
          = (b.afterHandshake c none).followedBy es := by
        rw [afterHandshake, hhandshake]
        rfl
      have hwith : (b.followedBy es).withSession c limit
          = (b.withSession c none).followedBy es := by
        rw [withSession, hafter, hhandshake]
        rfl
      rw [handled_opened, handled_opened, hafter, hwith, hhandshake]
      cases (b.handshake c none).outcome <;> rfl
    · have hs' : (b.followedBy es).session = some s := hs
      rw [handled_closed limit hs', handled_closed none hs]
      rfl
    · have hs' : (b.followedBy es).session = some s := hs
      rw [handled_message_eq limit hs', handled_message_eq none hs]
      rfl

theorem poll_followedBy (limit : Option Nat) {es : List Event}
    (next : b.dispatch.nextEvent = some (e, taken)) (reporting : b.inbox.hungUp = false)
    (others : ∀ c ∈ b.opening, ∀ d ∈ es, d.role c.id 1 = .other)
    (inTime : (b.followedBy es).InTime limit) :
    (b.followedBy es).poll limit
      = ((b.poll none).1, (b.poll none).2.followedBy es) := by
  have hnext : (b.followedBy es).dispatch.nextEvent = some (e, taken.followedBy es) :=
    nextEvent_followedBy es next
  have hreporting : taken.inbox.hungUp = false := by
    rw [(nextEvent_eq_some next).2.1]
    exact reporting
  rw [poll_of_next hnext, poll_of_next next]
  refine handled_followedBy limit hreporting ?_ ?_
  · rintro c rfl
    have hwaiting : b.waiting = .opened c :: taken.waiting := (nextEvent_eq_some next).1
    exact others c (by simp [opening, hwaiting, Event.connection?])
  · rintro c rfl
    exact inTime.decided hnext

/-- If no handshake is too late, what waits is handled in the same way whatever follows of other
connections. -/
theorem exists_drain_followedBy (b : Bridge) (reporting : b.inbox.hungUp = false) :
    ∃ (results : List PollResult) (ready : Bridge), ready.waiting = []
      ∧ ready.inbox.hungUp = false ∧ (∀ l, Lasting l b.lines → Lasting l ready.lines)
      ∧ ∀ limit es, es ≠ [] → (∀ c ∈ b.opening, ∀ d ∈ es, d.role c.id 1 = .other) →
        (b.followedBy es).InTime limit →
        (ready.followedBy es).InTime limit
          ∧ (b.followedBy es).drain limit
            = (results ++ ((ready.followedBy es).drain limit).1,
              ((ready.followedBy es).drain limit).2) := by
  induction hn : b.waiting.length using Nat.strong_induction_on generalizing b with
  | _ n ih =>
      by_cases hw : b.waiting = []
      · exact ⟨[], b, hw, reporting, fun _ last => last, fun _ _ _ _ inTime => ⟨inTime, rfl⟩⟩
      · obtain ⟨e, taken, next⟩ := exists_next_of_waiting hw
        obtain ⟨results, ready, hready, hhung, hlasting, hdrain⟩ :=
          ih _ (by rw [← hn]; exact length_waiting_poll none hw) (b.poll none).2
            ((inbox_polling (polling_poll none b)).2.trans reporting) rfl
        refine ⟨(b.poll none).1 :: results, ready, hready, hhung, fun l last => ?_,
          fun limit es hes others inTime => ?_⟩
        · exact hlasting l (lasting_polling (polling_poll none b) last)
        · have hpoll := poll_followedBy limit next reporting others inTime
          have hafter := inTime.poll
          rw [hpoll] at hafter
          obtain ⟨hreadyInTime, hrest⟩ :=
            hdrain limit es hes (fun c hc => others c ((opening_poll none b).subset hc)) hafter
          have hne : (b.followedBy es).waiting ≠ [] := by
            rw [waiting_followedBy]
            simp [hes]
          refine ⟨hreadyInTime, ?_⟩
          rw [drain_of_waiting limit hne, hpoll, hrest]
          rfl

end Bridge

/-! ## Messages one by one -/

namespace Editor

/-- Whether all changes that wait are of the output, so that dispatching them does nothing. -/
def OutputOnly (e : Editor) : Prop := ∀ c ∈ e.workspace.changes, c.surface = .output

/-- What the messages of a session come to, each of them handled when its turn comes: the results
of the polls, the editor, and what is added to the log. The last poll finds no message. -/
def heedAll : List String → Editor → List PollResult × Editor × List (Severity × String)
  | [], e => ([.ok none], e.settled, [])
  | t :: ts, e =>
    ((e.settled.heed t).1 :: (heedAll ts (e.settled.heed t).2.1).1,
      (heedAll ts (e.settled.heed t).2.1).2.1,
      (e.settled.heed t).2.2 ++ (heedAll ts (e.settled.heed t).2.1).2.2)

theorem absorbed_of_outputOnly {e : Editor} (h : e.OutputOnly) :
    e.absorbed = e.settled ∧ e.waitingNotices = [] := by
  have hnone : (e.workspace.changes.filter fun c => c.surface ≠ .output) = [] :=
    List.filter_eq_nil_iff.2 fun c hc => by simp [h c hc]
  refine ⟨?_, List.flatMap_eq_nil_iff.2 fun c hc => ?_⟩
  · rw [absorbed, ← foldl_absorb_filter, hnone]
    rfl
  · rw [changeNotices, if_pos (h c hc)]

/-- What the server does makes changes of the output only. -/
theorem outputOnly_heed {e : Editor} (h : e.OutputOnly) (t : String) :
    (e.heed t).2.1.OutputOnly := by
  unfold heed
  split
  · exact h
  · exact h
  · exact h
  · split
    · exact h
    · exact h
    · split
      · exact h
      · rename_i e' happlied
        obtain ⟨-, ⟨cs, hcs, hchanges⟩, -⟩ := aside_applyNotification happlied
        intro c hc
        rw [hchanges] at hc
        rcases List.mem_append.1 hc with hc | hc
        · exact h c hc
        · exact hcs c hc

theorem heedAll_settled (ts : List String) (e : Editor) :
    heedAll ts e.settled = heedAll ts e := by
  cases ts <;> rfl

theorem heed_of_asks {t : String} (h : asks t = true) (e : Editor) :
    e.heed t = (.ok none, e, []) := by
  unfold asks at h
  split at h
  · rename_i hm
    simp [heed, hm]
  · cases h

/-- Requests make no news, and no difference to the editor. -/
theorem heedAll_filter (ts : List String) (e : Editor) :
    (heedAll (ts.filter fun t => !asks t) e).2 = (heedAll ts e).2
      ∧ (heedAll (ts.filter fun t => !asks t) e).1.filter PollResult.isNews
        = (heedAll ts e).1.filter PollResult.isNews := by
  induction ts generalizing e with
  | nil => exact ⟨rfl, rfl⟩
  | cons t ts ih =>
      cases ha : asks t with
      | true =>
          rw [List.filter_cons_of_neg (by simp [ha])]
          have hcons : heedAll (t :: ts) e = (.ok none :: (heedAll ts e).1, (heedAll ts e).2) := by
            simp [heedAll, heed_of_asks ha, heedAll_settled]
          rw [hcons]
          exact ih e
      | false =>
          rw [List.filter_cons_of_pos (by simp [ha])]
          obtain ⟨heditor, hnews⟩ := ih (e.settled.heed t).2.1
          refine ⟨by simp only [heedAll, heditor], ?_⟩
          simp only [heedAll, List.filter_cons, hnews]

end Editor

namespace Bridge

variable {limit : Option Nat} {b taken after : Bridge} {e : Event} {result : PollResult}

theorem dispatch_of_outputOnly (h : b.editor.OutputOnly) :
    b.dispatch = { b with editor := b.editor.settled } := by
  obtain ⟨habsorbed, hnotices⟩ := Editor.absorbed_of_outputOnly h
  rw [dispatch_eq_told, habsorbed, hnotices]
  rfl

/-- A bridge whose session has only messages of its own before it follows `heedAll`, and answers
the requests among the messages. -/
theorem drain_messages (limit : Option Nat) {s : Session} (ts : List String)
    (active : b.session = some s) (waiting : b.waiting = ts.map (Event.message s.id))
    (reporting : b.inbox.hungUp = false) (output : b.editor.OutputOnly)
    (last : Lasting s.line b.lines) :
    (b.drain limit).1 = (b.editor.heedAll ts).1
      ∧ (b.drain limit).2.editor = (b.editor.heedAll ts).2.1
      ∧ (b.drain limit).2.log = b.log ++ (b.editor.heedAll ts).2.2
      ∧ (b.drain limit).2.session = some s
      ∧ (b.drain limit).2.lines.framesAt s.line
        = b.lines.framesAt s.line ++ ts.filterMap Rpc.reply? := by
  induction ts generalizing b with
  | nil =>
      have hdispatch := dispatch_of_outputOnly output
      have hnone : b.dispatch.nextEvent = none := by
        cases hn : b.dispatch.nextEvent with
        | none => rfl
        | some p =>
            have hwaiting : b.waiting = p.1 :: p.2.waiting := (nextEvent_eq_some hn).1
            rw [waiting] at hwaiting
            cases hwaiting
      rw [drain_of_empty limit waiting, poll_of_none hnone, hdispatch]
      simp [reporting, active, Editor.heedAll]
  | cons t ts ih =>
      have hne : b.waiting ≠ [] := by
        rw [waiting]
        simp
      obtain ⟨e, taken, next⟩ := exists_next_of_waiting hne
      obtain ⟨hwaiting, -⟩ := waiting_poll limit next
      obtain ⟨rfl, hrest⟩ := List.cons.inj (hwaiting.symm.trans waiting)
      have htaken := (nextEvent_eq_some next).2.1
      rw [dispatch_of_outputOnly output] at htaken
      have hactive : taken.session = some s := by
        rw [htaken]
        exact active
      have hpoll : b.poll limit = ((b.editor.settled.heed t).1,
          { taken with
            editor := (b.editor.settled.heed t).2.1
            lines := b.lines.replied s.client.connection t
            log := b.log ++ (b.editor.settled.heed t).2.2 }) := by
        rw [poll_of_next next, handled_message_eq limit hactive, htaken]
      have hanswered : (b.lines.replied s.client.connection t).framesAt s.line
          = b.lines.framesAt s.line ++ (Rpc.reply? t).toList :=
        (Rpc.Lines.queued_replied last t).frames
      have hsettled : b.editor.settled.OutputOnly := fun c hc => by cases hc
      obtain ⟨hresults, heditor, hlog, hsession, hframes⟩ := ih (b := (b.poll limit).2)
        (by rw [hpoll]; exact hactive) (by rw [hpoll]; exact hrest)
        (by rw [hpoll, htaken]; exact reporting)
        (by rw [hpoll]; exact Editor.outputOnly_heed hsettled t)
        (by rw [hpoll]; exact Rpc.Lines.lasting_replied last s.client.connection t)
      rw [drain_of_waiting limit hne]
      rw [hpoll] at hresults heditor hlog hframes
      rw [hpoll] at hsession ⊢
      refine ⟨congrArg _ hresults, heditor, ?_, hsession, ?_⟩
      · rw [hlog, List.append_assoc]
        rfl
      · rw [hframes, List.filterMap_cons]
        dsimp only
        rw [hanswered, List.append_assoc]
        cases Rpc.reply? t <;> rfl

/-! ## The handshake among the messages -/

section Arrival

variable {c : Connection} {xs : List String} {r : String} {m : Message} {s : Session}

/-- A handshake whose answer is somewhere among the messages of its connection. -/
theorem exists_handshake (ys : List String)
    (arrived : b.inbox.events = (xs ++ r :: ys).map (Event.message c.id))
    (unanswered : ∀ t ∈ xs, answersGreeting t = false)
    (read : Message.read r = .ok m) (answers : m.isResponseTo 1 = true)
    (learnt : ({ Session.ofConnection c with client := Session.greeter c } : Session).learn m
      = .ok s)
    (last : Lasting c.line b.lines)
    (inTime : (b.handshake c limit).outcome ≠ .error Session.tooLate) :
    ∃ lines, Queued c.line
        (Session.greeting b.clientName :: xs.filterMap Rpc.reply? ++ [Session.confirmation])
        b.lines lines
      ∧ Lasting c.line lines
      ∧ b.handshake c limit = ⟨{ s with isStarted := true }, .ok (),
        (xs.filter fun t => !asks t).map (Event.message c.id), ys.map (Event.message c.id),
        lines⟩ := by
  have hsplit : b.inbox.events
      = xs.map (Event.message c.id) ++ Event.message c.id r :: ys.map (Event.message c.id) := by
    rw [arrived, List.map_append, List.map_cons]
  have hquiet : ∀ d ∈ xs.map (Event.message c.id), (d.role c.id 1).isQuiet = true := by
    intro d hd
    obtain ⟨t, ht, rfl⟩ := List.mem_map.1 hd
    rw [isQuiet_message, unanswered t ht]
    rfl
  have hrole : (Event.message c.id r).role c.id 1 = .answer m := by
    simp [Event.role, read, Message.role, answers]
  obtain ⟨lines, hq, hlines, hstart⟩ := Session.start_of_split b.clientName
    hsplit hquiet hrole learnt last inTime
  rw [filterMap_reply? c.id unanswered] at hq
  rw [filter_isOther c.id unanswered] at hstart
  exact ⟨lines, hq, hlines, hstart⟩

/-- The poll that opens a connection whose messages have all arrived. The session and the editor
are the same wherever the answer is, and what waits now are the other messages, but for the
requests that the handshake has answered. -/
theorem poll_opened (ys : List String) (empty : b.waiting = [])
    (unanswered : ∀ t ∈ xs, answersGreeting t = false)
    (read : Message.read r = .ok m) (answers : m.isResponseTo 1 = true)
    (learnt : ({ Session.ofConnection c with client := Session.greeter c } : Session).learn m
      = .ok s)
    (last : Lasting c.line b.lines)
    (inTime : (b.followedBy (.opened c :: (xs ++ r :: ys).map (Event.message c.id))).InTime limit) :
    ∃ after, (b.followedBy (.opened c :: (xs ++ r :: ys).map (Event.message c.id))).poll limit
          = (.ok (some (.sessionStarted c.id)), after)
        ∧ after.editor = b.editor.absorbed.reflectOptions ∧ after.log = b.log
        ∧ after.session = some { s with isStarted := true }
        ∧ after.waiting = ((xs.filter fun t => !asks t) ++ ys).map (Event.message c.id)
        ∧ after.inbox.hungUp = b.inbox.hungUp ∧ Lasting c.line after.lines
        ∧ after.lines.framesAt c.line = b.dispatch.lines.framesAt c.line
          ++ (Session.greeting b.clientName :: xs.filterMap Rpc.reply? ++ [Session.confirmation])
          ++ frames b.editor.absorbed.schemaStateNotices
          ++ frames b.editor.absorbed.optionStateNotices := by
  obtain ⟨hbacklog, hevents⟩ := List.append_eq_nil_iff.1 empty
  have hnext :
      (b.followedBy (.opened c :: (xs ++ r :: ys).map (Event.message c.id))).dispatch.nextEvent
      = some (.opened c, b.dispatch.followedBy ((xs ++ r :: ys).map (Event.message c.id))) := by
    simp only [followedBy, nextEvent, dispatch, withEditor, hbacklog, hevents, List.nil_append]
  generalize htaken : b.dispatch.followedBy ((xs ++ r :: ys).map (Event.message c.id)) = taken
    at hnext
  have harrived : taken.inbox.events = (xs ++ r :: ys).map (Event.message c.id) := by
    rw [← htaken]
    show b.inbox.events ++ _ = _
    rw [hevents, List.nil_append]
  have hlast : Lasting c.line taken.lines := by
    rw [← htaken]
    exact lasting_dispatch last
  obtain ⟨lines, hq, hlines, hhandshake⟩ :=
    exists_handshake ys harrived unanswered read answers learnt hlast (inTime.decided hnext)
  -- the session has started, and the state of the editor is yet to be sent
  generalize hstarted : taken.withSession c limit = started
  obtain ⟨heditor, hlog, hsession, hwaiting, hhungUp, hconfirmed⟩ :
      started.editor = b.editor.absorbed ∧ started.log = b.log
        ∧ started.session = some { s with isStarted := true }
        ∧ started.waiting = ((xs.filter fun t => !asks t) ++ ys).map (Event.message c.id)
        ∧ started.inbox.hungUp = b.inbox.hungUp ∧ started.lines = lines := by
    rw [← hstarted, withSession, afterHandshake, hhandshake, ← htaken]
    refine ⟨editor_dispatch b, rfl, rfl, ?_, rfl, rfl⟩
    show b.backlog ++ (xs.filter fun t => !asks t).map (Event.message c.id)
      ++ ys.map (Event.message c.id) = _
    rw [hbacklog, List.map_append]
    rfl
  have hline : ({ s with isStarted := true } : Session).line = c.line := by
    show s.client.connection.line = c.line
    rw [Session.client_of_learn learnt]
    rfl
  rw [← hconfirmed] at hlines
  refine ⟨started.sendSchemaState.sendOptionState, ?_, ?_⟩
  · rw [poll_of_next hnext, handled_opened, hhandshake, hstarted]
  · have hframes := framesAt_started hlines hsession hline
    rw [hconfirmed, hq.frames, heditor, ← htaken] at hframes
    refine ⟨?_, hlog, hsession, hwaiting, hhungUp, lasting_started hlines, ?_⟩
    · rw [← heditor, started_eq_told]
      rfl
    · rw [hframes]
      simp only [List.append_assoc]
      rfl

end Arrival

end Bridge

/-! ## What can be observed -/

/-- Whether a frame is a notification about the page. -/
def Rpc.Frame.isOv : Frame → Bool
  | .notification method _ => "ov/".toList.isPrefixOf method.toList
  | _ => false

/-- Neither responses nor what begins and ends a handshake are about the page. -/
theorem filter_isOv_filterMap (ts : List String) :
    (ts.filterMap Rpc.reply?).filter Frame.isOv = [] := by
  refine List.filter_eq_nil_iff.2 fun f hf => ?_
  have hreply := isReply_of_mem_filterMap f hf
  cases f with
  | notification method params => cases hreply
  | _ => simp [Rpc.Frame.isOv]

theorem filter_isOv_handshake (clientName : String) (ts : List String) :
    (Session.greeting clientName :: ts.filterMap Rpc.reply? ++ [Session.confirmation]).filter
      Frame.isOv = [] := by
  rw [List.filter_append, List.filter_cons_of_neg (by simp [Session.greeting, Rpc.Frame.isOv]),
    filter_isOv_filterMap]
  rfl

theorem filterMap_reply?_filter (ts : List String) :
    (ts.filter fun t => !asks t).filterMap Rpc.reply? = [] := by
  refine List.filterMap_eq_nil_iff.2 fun t ht => reply?_of_not_asks ?_
  simpa using (List.mem_filter.1 ht).2

theorem replies_frames (ns : List ClientNotification) : Frame.replies (frames ns) = [] := by
  refine Frame.replies_eq_nil fun f hf => ?_
  obtain ⟨n, -, rfl⟩ := List.mem_map.1 hf
  exact isReply_frame n

/-- A connection opens, its reader does not go away, and its messages arrive. -/
def Action.arrival (id : Nat) (texts : List String) : List Action :=
  .signal (.opened id none) :: texts.map fun t => .signal (.message id t)

/-- What can be observed of a bridge that has been drained: the editor, the session, the log, the
results of the polls, and the responses and the notifications about the page on a line. -/
structure Observed where
  editor : Editor
  session : Option Session
  log : List (Severity × String)
  news : List PollResult
  replies : List Frame
  notices : List Frame

namespace Bridge

variable {limit : Option Nat} {b : Bridge}

/-- What can be observed after a bridge has been drained. -/
def observed (line : Nat) (p : List PollResult × Bridge) : Observed where
  editor := p.2.editor
  session := p.2.session
  log := p.2.log
  news := p.1.filter PollResult.isNews
  replies := Frame.replies (p.2.lines.framesAt line)
  notices := (p.2.lines.framesAt line).filter Frame.isOv

/-- What comes before only adds to the news. -/
theorem observed_append (line : Nat) (results : List PollResult) (p : List PollResult × Bridge) :
    observed line (results ++ p.1, p.2)
      = { observed line p with
          news := results.filter PollResult.isNews ++ (observed line p).news } := by
  simp [observed]

theorem run_messages (id : Nat) (texts : List String) {b : Bridge}
    (reporting : b.inbox.hungUp = false) :
    b.run (texts.map fun t => .signal (.message id t))
      = b.followedBy (texts.map (Event.message id)) := by
  induction texts generalizing b with
  | nil => simp [followedBy]
  | cons t texts ih =>
      rw [List.map_cons, run_cons, ih (by simp [act, receive, Inbox.push, reporting])]
      simp [act, receive, Inbox.push, reporting, followedBy]

theorem run_arrival (id : Nat) (texts : List String) {b : Bridge}
    (reporting : b.inbox.hungUp = false) :
    b.run (Action.arrival id texts)
      = ({ b with lines := (b.lines.openLine id none).2 }).followedBy
          (.opened ⟨id, b.lines.length⟩ :: texts.map (Event.message id)) := by
  rw [Action.arrival, run_cons,
    run_messages id texts (by simp [act, receive, Inbox.push, reporting])]
  simp [act, receive, Inbox.push, reporting, followedBy, Rpc.Lines.openLine]

/-- What can be observed after a connection has opened on which certain messages arrive, and the
answer to its handshake. -/
def accepting (line : Nat) (s : Session) (ms : List String) (b : Bridge) : Observed where
  editor := (b.editor.absorbed.reflectOptions.heedAll (ms.filter fun t => !asks t)).2.1
  session := some s
  log := b.log ++ (b.editor.absorbed.reflectOptions.heedAll (ms.filter fun t => !asks t)).2.2
  news := .ok (some (.sessionStarted s.id))
    :: (b.editor.absorbed.reflectOptions.heedAll (ms.filter fun t => !asks t)).1.filter
      PollResult.isNews
  replies := Frame.replies (b.dispatch.lines.framesAt line) ++ ms.filterMap Rpc.reply?
  notices := (b.dispatch.lines.framesAt line ++ frames b.editor.absorbed.schemaStateNotices
    ++ frames b.editor.absorbed.optionStateNotices).filter Frame.isOv

/-- The place of the answer among the messages does not occur in what can be observed. -/
theorem observed_accepting (ys : List String) {c : Connection} {xs : List String} {r : String}
    {m : Message} {s : Session} (empty : b.waiting = []) (reporting : b.inbox.hungUp = false)
    (unanswered : ∀ t ∈ xs, answersGreeting t = false) (read : Message.read r = .ok m)
    (answers : m.isResponseTo 1 = true)
    (learnt : ({ Session.ofConnection c with client := Session.greeter c } : Session).learn m
      = .ok s)
    (last : Lasting c.line b.lines)
    (inTime : (b.followedBy (.opened c :: (xs ++ r :: ys).map (Event.message c.id))).InTime limit) :
    observed c.line
        ((b.followedBy (.opened c :: (xs ++ r :: ys).map (Event.message c.id))).drain limit)
      = b.accepting c.line { s with isStarted := true } (xs ++ ys) := by
  have hconnection : ({ s with isStarted := true } : Session).client.connection = c :=
    congrArg Client.connection (Session.client_of_learn learnt)
  generalize hsession : ({ s with isStarted := true } : Session) = session at hconnection
  have hid : session.id = c.id := congrArg Connection.id hconnection
  have hline : session.line = c.line := congrArg Connection.line hconnection
  obtain ⟨after, hpoll, heditor, hlog, hactive, hwaiting, hreporting, hlast, hframes⟩ :=
    poll_opened ys empty unanswered read answers learnt last inTime
  rw [hsession] at hactive
  rw [← hid] at hwaiting
  have houtput : after.editor.OutputOnly := by
    intro change hchange
    rw [heditor, (Reported.reflectOptions_eq _).1, Editor.absorbed_workspace] at hchange
    cases hchange
  obtain ⟨hresults, hlastEditor, hlastLog, hlastSession, hlastFrames⟩ :=
    drain_messages limit ((xs.filter fun t => !asks t) ++ ys) hactive hwaiting
      (hreporting.trans reporting) houtput (by rw [hline]; exact hlast)
  rw [hline, hframes, List.filterMap_append, filterMap_reply?_filter, List.nil_append]
    at hlastFrames
  -- the requests that the handshake has answered are no loss
  obtain ⟨hsame, hnews⟩ := Editor.heedAll_filter ((xs.filter fun t => !asks t) ++ ys) after.editor
  have hfilter : ((xs.filter fun t => !asks t) ++ ys).filter (fun t => !asks t)
      = (xs ++ ys).filter fun t => !asks t := by
    simp [List.filter_append, List.filter_filter]
  rw [hfilter, heditor] at hsame hnews
  have hne : (b.followedBy (.opened c :: (xs ++ r :: ys).map (Event.message c.id))).waiting
      ≠ [] := by
    rw [waiting_followedBy]
    simp
  rw [drain_of_waiting limit hne, hpoll]
  simp only [observed, accepting, Observed.mk.injEq]
  refine ⟨?_, hlastSession, ?_, ?_, ?_, ?_⟩
  · rw [hlastEditor, heditor, hsame]
  · rw [hlastLog, hlog, heditor, hsame]
  · rw [hresults, heditor, hnews, hid]
    rfl
  · rw [hlastFrames, Frame.replies_append, Frame.replies_append, Frame.replies_append,
      Frame.replies_append, replies_handshake, replies_frames, replies_frames, List.append_nil,
      List.append_nil, Frame.replies_eq_self isReply_of_mem_filterMap, List.filterMap_append,
      List.append_assoc]
  · rw [hlastFrames, List.filter_append, List.filter_append, List.filter_append,
      List.filter_append, filter_isOv_handshake, filter_isOv_filterMap, List.append_nil,
      List.append_nil, ← List.filter_append, ← List.filter_append]

/-- What can be observed does not depend on where among its messages the answer is. -/
theorem exists_observed_arrival {b : Bridge} {id : Nat} {ms : List String} {r : String}
    {number : Json} {result : Option Json} (reporting : b.inbox.hungUp = false)
    (fresh : id ∉ b.opening.map Connection.id) (unanswered : ∀ t ∈ ms, answersGreeting t = false)
    (read : Message.read r = .ok (.response number result none))
    (answers : number.natural? = some 1) :
    ∃ o : Observed, (∃ s, o.session = some s ∧ s.id = id)
      ∧ ∀ limit xs ys, ms = xs ++ ys → (b.run (Action.arrival id (xs ++ r :: ys))).InTime limit →
        observed b.lines.length ((b.run (Action.arrival id (xs ++ r :: ys))).drain limit) = o := by
  generalize hc : (⟨id, b.lines.length⟩ : Connection) = c
  have hid : c.id = id := by rw [← hc]
  have hline : c.line = b.lines.length := by rw [← hc]
  obtain ⟨results, ready, hempty, hreporting, hlasting, hdrain⟩ :=
    exists_drain_followedBy { b with lines := (b.lines.openLine id none).2 } reporting
  have hlast : Lasting c.line ready.lines := by
    refine hlasting c.line ⟨⟨id, [], none⟩, ?_, rfl⟩
    rw [hline]
    simp [Rpc.Lines.openLine]
  -- to the connections that wait to be opened, what arrives is of no concern
  have hothers : ∀ texts : List String, ∀ w ∈ b.opening,
      ∀ d ∈ Event.opened c :: texts.map (Event.message id), d.role w.id 1 = .other := by
    intro texts w hw d hd
    have hne : id ≠ w.id := fun he => fresh (he ▸ List.mem_map_of_mem hw)
    refine Event.role_of_ne ?_
    rcases List.mem_cons.1 hd with rfl | hd
    · rw [← hid] at hne
      exact hne
    · obtain ⟨t, -, rfl⟩ := List.mem_map.1 hd
      exact hne
  obtain ⟨s, learnt⟩ : ∃ s, ({ Session.ofConnection c with client := Session.greeter c } :
      Session).learn (.response number result none) = .ok s := ⟨_, rfl⟩
  have hsession : ({ s with isStarted := true } : Session).client.connection = c :=
    congrArg Client.connection (Session.client_of_learn learnt)
  generalize hstarted : ({ s with isStarted := true } : Session) = started at hsession
  have hstartedId : started.id = id := (congrArg Connection.id hsession).trans hid
  refine ⟨{ ready.accepting c.line started ms with
      news := results.filter PollResult.isNews ++ (ready.accepting c.line started ms).news },
    ⟨started, rfl, hstartedId⟩, ?_⟩
  rintro limit xs ys rfl inTime
  rw [run_arrival id _ reporting, hc] at inTime ⊢
  obtain ⟨hinTime, hrun⟩ := hdrain limit _ (by simp) (hothers _) inTime
  rw [← hid] at hinTime
  have hobserved := observed_accepting ys hempty hreporting
    (fun t ht => unanswered t (List.mem_append_left _ ht)) read
    (by simp [Message.isResponseTo, answers]) learnt hlast hinTime
  rw [hstarted, hid] at hobserved
  rw [hrun, observed_append, ← hline, hobserved]

/-- Deferral cannot be observed. The transport still reports. A connection opens with an id that no
other connection has that waits to be opened, and messages arrive on it among which there is an
answer that accepts the handshake, and no other. When the bridge has been drained and no handshake
has been too late, the place of the answer among the messages makes no difference to the editor,
the session, the log, what the polls have reported, the responses on the line of the connection,
and the notifications about the page there. -/
theorem observed_of_runs (b : Bridge) (id : Nat) (limit limit' : Option Nat)
    (ms xs ys xs' ys' : List String) {r : String} {number : Json} {result : Option Json}
    (reporting : b.inbox.hungUp = false) (fresh : id ∉ b.opening.map Connection.id)
    (unanswered : ∀ t ∈ ms, answersGreeting t = false)
    (read : Message.read r = .ok (.response number result none))
    (answers : number.natural? = some 1) (split : ms = xs ++ ys) (split' : ms = xs' ++ ys')
    (inTime : (b.run (Action.arrival id (xs ++ r :: ys))).InTime limit)
    (inTime' : (b.run (Action.arrival id (xs' ++ r :: ys'))).InTime limit') :
    observed b.lines.length ((b.run (Action.arrival id (xs ++ r :: ys))).drain limit)
        = observed b.lines.length ((b.run (Action.arrival id (xs' ++ r :: ys'))).drain limit')
      ∧ ∃ s, ((b.run (Action.arrival id (xs ++ r :: ys))).drain limit).2.session = some s
        ∧ s.id = id := by
  obtain ⟨o, ⟨s, hs, hid⟩, hobserved⟩ :=
    exists_observed_arrival reporting fresh unanswered read answers
  have hfirst := hobserved limit xs ys split inTime
  have hsecond := hobserved limit' xs' ys' split' inTime'
  refine ⟨hfirst.trans hsecond.symm, s, ?_, hid⟩
  rw [← hs, ← hfirst]
  rfl

/-- A request and a frame that is no message, after the answer to the handshake and before it. -/
theorem observed_of_runs_swapped :
    ∃ (b : Bridge) (r : String) (ms : List String), b = ofEditor .sample "page" ∧ ms.length = 2
      ∧ (b.run (Action.arrival 1 (r :: ms))).InTime (some 1)
      ∧ (b.run (Action.arrival 1 (ms ++ [r]))).InTime (some 3)
      ∧ observed 0 ((b.run (Action.arrival 1 (r :: ms))).drain (some 1))
        = observed 0 ((b.run (Action.arrival 1 (ms ++ [r]))).drain (some 3)) := by
  generalize hask : "\x7b\"id\":\"a\",\"method\":\"workspace/configuration\"\x7d" = ask
  generalize hanswer : "\x7b\"id\":1,\"result\":null\x7d" = answer
  have hunanswered : ∀ t ∈ [ask, "\x7b"], answersGreeting t = false := by
    intro t ht
    rcases List.mem_pair.1 ht with rfl | rfl
    · rw [← hask]
      cbv
    · cbv
  have hread : Message.read answer = .ok (.response (.natural 1) (some .null) none) := by
    rw [← hanswer]
    cbv
  have hfresh : 1 ∉ (ofEditor .sample "page").opening.map Connection.id := List.not_mem_nil
  have hfirst : ((ofEditor .sample "page").run
      (Action.arrival 1 [answer, ask, "\x7b"])).InTime (some 1) := by
    refine inTime_of_started rfl ?_ rfl
    rw [← hask, ← hanswer]
    cbv
  have hsecond : ((ofEditor .sample "page").run
      (Action.arrival 1 [ask, "\x7b", answer])).InTime (some 3) := by
    refine inTime_of_started rfl ?_ rfl
    rw [← hask, ← hanswer]
    cbv
  have hobserved := observed_of_runs (ofEditor .sample "page") 1 (some 1) (some 3) [ask, "\x7b"]
    [] [ask, "\x7b"] [ask, "\x7b"] [] rfl hfresh hunanswered hread rfl rfl rfl hfirst hsecond
  exact ⟨_, answer, [ask, "\x7b"], rfl, rfl, hfirst, hsecond, hobserved.1⟩

end Bridge

end SurfaceBridge
