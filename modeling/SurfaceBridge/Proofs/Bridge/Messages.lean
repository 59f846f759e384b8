import SurfaceBridge.Proofs.Bridge.Stream
import SurfaceBridge.Proofs.Rpc.Replying

set_option autoImplicit false

/-! # Messages before and after the handshake

A message of the own connection can be read in two places, by a handshake that waits for its
answer and by a poll. `await_of_split` says what a handshake makes of the events before its
answer, and `handled_message_eq` what a poll makes of a message. In both places a request gets the
same response, and anything but a request gets none.
-/

namespace SurfaceBridge

open Rpc (Client Connection Frame Lines Message Request)
open Rpc.Lines (Lasting Queued)

/-! ## Responses -/

/-- The response to a frame, if it is a request. -/
def Rpc.reply? (text : String) : Option Frame := (Request.read? text).map Request.reply

theorem Rpc.reply?_of_request {text method : String} {id params : Json}
    (h : Message.read text = .ok (.request id method params)) :
    Rpc.reply? text = some (.answer id method params) := by
  rw [Rpc.reply?, Rpc.Message.read_eq_request.1 h]
  rfl

theorem Rpc.reply?_eq_none {text : String}
    (h : ∀ id method params, Message.read text ≠ .ok (.request id method params)) :
    Rpc.reply? text = none := by
  unfold Rpc.reply?
  cases hr : Request.read? text with
  | none => rfl
  | some r => exact absurd (Rpc.Message.read_eq_request.2 hr) (h r.id r.method r.params)

theorem isSome_reply? (text : String) : (Rpc.reply? text).isSome = asks text := by
  unfold asks
  cases hm : Message.read text with
  | error err => rw [Rpc.reply?_eq_none (by simp [hm])]; rfl
  | ok m =>
      cases m with
      | request id method params => rw [Rpc.reply?_of_request hm]; rfl
      | _ => rw [Rpc.reply?_eq_none (by simp [hm])]; rfl

theorem reply?_of_not_asks {text : String} (h : asks text = false) : Rpc.reply? text = none := by
  have hsome := isSome_reply? text
  rw [h] at hsome
  simpa using hsome

theorem isReply_frame (n : ClientNotification) : n.frame.isReply = false := by
  cases n <;> rfl

theorem isReply_of_reply? {text : String} {f : Frame} (h : Rpc.reply? text = some f) :
    f.isReply = true := by
  obtain ⟨r, -, rfl⟩ := Option.map_eq_some_iff.1 h
  exact Frame.isReply_answer r.id r.method r.params

theorem isReply_of_mem_filterMap {ts : List String} :
    ∀ f ∈ ts.filterMap Rpc.reply?, f.isReply = true := by
  intro f hf
  obtain ⟨t, -, ht⟩ := List.mem_filterMap.1 hf
  exact isReply_of_reply? ht

/-- The response that an event gets in a handshake. -/
def Role.reply? : Role → Option Frame
  | .question f => some f
  | _ => none

theorem reply?_message {text : String} (id : Nat) (h : answersGreeting text = false) :
    ((Event.message id text).role id 1).reply? = Rpc.reply? text := by
  simp only [Event.role, answersGreeting, if_true] at h ⊢
  cases hm : Message.read text with
  | error err => rw [Rpc.reply?_eq_none (by simp [hm])]; rfl
  | ok m =>
      rw [hm] at h
      dsimp only at h
      cases m with
      | request i method params =>
          rw [Rpc.reply?_of_request hm]
          simp [Message.role, h, Role.reply?]
      | _ =>
          rw [Rpc.reply?_eq_none (by simp [hm])]
          simp [Message.role, h, Role.reply?]

/-- The responses that messages get in a handshake. -/
theorem filterMap_reply? (id : Nat) {read : List String}
    (quiet : ∀ t ∈ read, answersGreeting t = false) :
    (read.map (Event.message id)).filterMap (fun d => (d.role id 1).reply?)
      = read.filterMap Rpc.reply? := by
  rw [List.filterMap_map]
  exact List.filterMap_congr fun t ht => reply?_message id (quiet t ht)

/-! ## In a handshake -/

namespace Session

section Wait

variable (c : Client) (n : Nat) (hungUp : Bool) {before : List Event} {e : Event} {m : Message}

/-- What a wait makes of the events before its answer: it puts those off that are no questions,
and answers the questions. That it fails nevertheless is because the reader goes away or the time
is over. -/
theorem await_of_split (quiet : ∀ d ∈ before, (d.role c.connection.id n).isQuiet = true)
    (role : e.role c.connection.id n = .answer m) (after : List Event) (limit : Option Nat)
    (lines : Lines) :
    (∃ lines', Queued c.connection.line
          (before.filterMap fun d => (d.role c.connection.id n).reply?) lines lines'
        ∧ (∀ l, Lasting l lines → Lasting l lines')
        ∧ await c n hungUp (before ++ e :: after) limit lines
          = ⟨.ok m, before.filter fun d => (d.role c.connection.id n).isOther, after, lines'⟩)
      ∨ ∃ err, (await c n hungUp (before ++ e :: after) limit lines).answer = .error err
        ∧ (Lasting c.connection.line lines → err = tooLate) := by
  induction before generalizing limit lines with
  | nil =>
      by_cases hl : limit = some 0
      · subst hl
        exact Or.inr ⟨tooLate, by rw [await_zero], fun _ => rfl⟩
      · refine Or.inl ⟨lines, Queued.refl _ _, fun _ last => last, ?_⟩
        rw [List.nil_append, await_cons c n hungUp hl, role]
        rfl
  | cons d before ih =>
      have hquiet : ∀ d ∈ before, (d.role c.connection.id n).isQuiet = true :=
        fun d hd => quiet d (List.mem_cons_of_mem _ hd)
      by_cases hl : limit = some 0
      · subst hl
        exact Or.inr ⟨tooLate, by rw [await_zero], fun _ => rfl⟩
      · rw [List.cons_append, await_cons c n hungUp hl]
        have hd := quiet d List.mem_cons_self
        cases hr : d.role c.connection.id n with
        | answer m' =>
            rw [hr] at hd
            cases hd
        | ending =>
            rw [hr] at hd
            cases hd
        | question f =>
            dsimp only
            cases hs : c.send f lines with
            | error err =>
                refine Or.inr ⟨err, rfl, fun last => ?_⟩
                obtain ⟨lines', hsend, -⟩ := last.send f
                rw [(send_eq_ok c).2 hsend] at hs
                cases hs
            | ok lines' =>
                have hsend := (send_eq_ok c).1 hs
                rcases ih hquiet (limit.map (· - 1)) lines' with
                  ⟨waited, hq, hlast, hw⟩ | ⟨err, herr, hlate⟩
                · refine Or.inl ⟨waited, ?_, fun l last => hlast l (last.of_send hsend), ?_⟩
                  · rw [List.filterMap_cons, hr]
                    exact (Rpc.Lines.queued_of_send hsend).trans hq
                  · simp [hw, hr, Role.isOther]
                · exact Or.inr ⟨err, herr, fun last => hlate (last.of_send hsend)⟩
        | other =>
            dsimp only
            rcases ih hquiet (limit.map (· - 1)) lines with
              ⟨waited, hq, hlast, hw⟩ | ⟨err, herr, hlate⟩
            · refine Or.inl ⟨waited, ?_, hlast, ?_⟩
              · rw [List.filterMap_cons, hr]
                exact hq
              · simp [hw, hr, Role.isOther]
            · exact Or.inr ⟨err, herr, hlate⟩

/-- If nothing but other events is left, the answer comes too late. -/
theorem await_of_others {es : List Event} (others : ∀ d ∈ es, d.role c.connection.id n = .other)
    (limit : Option Nat) (lines : Lines) :
    (await c n false es limit lines).answer = .error tooLate := by
  induction es generalizing limit with
  | nil =>
      by_cases hl : limit = some 0
      · rw [hl, await_zero]
      · rw [await_nil c n false hl]
        rfl
  | cons d es ih =>
      by_cases hl : limit = some 0
      · rw [hl, await_zero]
      · rw [await_cons c n false hl, others d List.mem_cons_self]
        exact ih (fun d' hd' => others d' (List.mem_cons_of_mem _ hd')) _

/-- A wait that is not too late does not read the other events that follow. -/
theorem await_followed {es : List Event} (others : ∀ d ∈ es, d.role c.connection.id n = .other)
    (events : List Event) (limit : Option Nat) (lines : Lines)
    (inTime : (await c n false (events ++ es) limit lines).answer ≠ .error tooLate) :
    await c n false (events ++ es) limit lines
      = { await c n false events none lines with
          unread := (await c n false events none lines).unread ++ es } := by
  induction events generalizing limit lines with
  | nil => exact absurd (await_of_others c n others limit lines) inTime
  | cons e events ih =>
      by_cases hl : limit = some 0
      · rw [hl, await_zero] at inTime
        exact absurd rfl inTime
      · rw [List.cons_append, await_cons c n false hl] at inTime ⊢
        rw [await_cons c n false (by simp)]
        cases hr : e.role c.connection.id n with
        | answer m => rfl
        | question f =>
            simp only [hr] at inTime
            dsimp only
            cases hs : c.send f lines with
            | error err => rfl
            | ok lines' =>
                rw [hs] at inTime
                exact ih (limit.map (· - 1)) lines' inTime
        | ending => rfl
        | other =>
            simp only [hr] at inTime
            dsimp only
            rw [ih (limit.map (· - 1)) lines inTime]
            rfl

end Wait

variable {c : Connection} {clientName : String} {limit : Option Nat} {inbox : Inbox}
variable {lines : Lines}

/-- What a handshake that succeeds has made of the events. -/
theorem Handshake.split {st : Start} (h : Handshake c clientName limit inbox lines st)
    (ok : st.outcome = .ok ()) :
    ∃ before e m after, inbox.events = before ++ e :: after
      ∧ (∀ d ∈ before, (d.role c.id 1).isQuiet = true) ∧ e.role c.id 1 = .answer m
      ∧ st.putOff = (before.filter fun d => (d.role c.id 1).isOther) ∧ st.unread = after
      ∧ Queued c.line (greeting clientName
          :: (before.filterMap fun d => (d.role c.id 1).reply?) ++ [confirmation])
        lines st.lines := by
  cases h with
  | unsent => cases ok
  | failed => cases ok
  | @started greeted _ _ m _ _ greet answer confirm =>
      have hwaited := waited_startWait c limit inbox greeted
      rw [answer] at hwaited
      generalize hput : (startWait c limit inbox greeted).putOff = putOff at hwaited ⊢
      generalize hunread : (startWait c limit inbox greeted).unread = unread at hwaited ⊢
      cases hwaited with
      | @answered before after e _ split quiet role =>
          refine ⟨before, e, m, _, split, quiet, role, rfl, rfl, ?_⟩
          have hwait : startWait c limit inbox greeted
              = await (greeter c) 1 inbox.hungUp (before ++ e :: unread) limit greeted := by
            rw [startWait, split]
          rcases await_of_split (greeter c) 1 inbox.hungUp quiet role unread limit greeted with
            ⟨lines', hq, -, hw⟩ | ⟨err, herr, -⟩
          · rw [hwait, hw] at confirm
            exact ((Rpc.Lines.queued_of_send greet).trans hq).trans
              (Rpc.Lines.queued_of_send confirm)
          · rw [← hwait, answer] at herr
            cases herr

/-- A handshake succeeds if there is an answer that accepts it, the reader does not go away, and
the answer does not come too late. -/
theorem start_of_split (clientName : String) {before after : List Event} {e : Event}
    {m : Message} {s : Session}
    (split : inbox.events = before ++ e :: after)
    (quiet : ∀ d ∈ before, (d.role c.id 1).isQuiet = true) (role : e.role c.id 1 = .answer m)
    (learnt : ({ ofConnection c with client := greeter c } : Session).learn m = .ok s)
    (last : Lasting c.line lines)
    (inTime : ((ofConnection c).start clientName limit inbox lines).outcome ≠ .error tooLate) :
    ∃ lines', Queued c.line (greeting clientName
          :: (before.filterMap fun d => (d.role c.id 1).reply?) ++ [confirmation]) lines lines'
      ∧ Lasting c.line lines'
      ∧ (ofConnection c).start clientName limit inbox lines
        = ⟨{ s with isStarted := true }, .ok (), before.filter fun d => (d.role c.id 1).isOther,
          after, lines'⟩ := by
  obtain ⟨greeted, greet, hgreeted⟩ := last.send (greeting clientName)
  have hclient : s.client = greeter c := client_of_learn learnt
  have hwait : startWait c limit inbox greeted
      = await (greeter c) 1 inbox.hungUp (before ++ e :: after) limit greeted := by
    rw [startWait, split]
  rcases await_of_split (greeter c) 1 inbox.hungUp quiet role after limit greeted with
    ⟨waited, hq, hlast, hw⟩ | ⟨err, herr, hlate⟩
  · obtain ⟨confirmed, confirm, hconfirmed⟩ := (hlast c.line hgreeted).send confirmation
    have hsend : s.client.send (.notification "initialized" (.object [])) waited
        = .ok confirmed := by
      rw [hclient]
      exact (send_eq_ok (greeter c)).2 confirm
    refine ⟨confirmed, ?_, hconfirmed, ?_⟩
    · exact ((Rpc.Lines.queued_of_send greet).trans hq).trans (Rpc.Lines.queued_of_send confirm)
    · rw [start_eq, greet]
      simp only [hwait, hw, Session.confirm, learnt, hsend]
      rfl
  · rw [← hwait, hlate hgreeted] at herr
    refine absurd ?_ inTime
    rw [start_eq, greet]
    simp only [Session.confirm, herr]

/-- A handshake that is not too late does not read the other events that follow. -/
theorem start_followed {es : List Event} (reporting : inbox.hungUp = false)
    (others : ∀ d ∈ es, d.role c.id 1 = .other)
    (inTime : ((ofConnection c).start clientName limit
      { inbox with events := inbox.events ++ es } lines).outcome ≠ .error tooLate) :
    (ofConnection c).start clientName limit { inbox with events := inbox.events ++ es } lines
      = { (ofConnection c).start clientName none inbox lines with
          unread := ((ofConnection c).start clientName none inbox lines).unread ++ es } := by
  rw [start_eq] at inTime ⊢
  rw [start_eq]
  cases hg : lines.send c (greeting clientName) with
  | none => rfl
  | some greeted =>
      simp only [hg, startWait, reporting] at inTime ⊢
      have hwait : (await (greeter c) 1 false (inbox.events ++ es) limit greeted).answer
          ≠ .error tooLate := by
        intro h
        exact inTime (by simp only [Session.confirm, h])
      rw [await_followed (greeter c) 1 others inbox.events limit greeted hwait]
      have hconfirm := confirm_of_events { ofConnection c with client := greeter c }
        (await (greeter c) 1 false inbox.events none greeted)
        (await (greeter c) 1 false inbox.events none greeted).putOff
        ((await (greeter c) 1 false inbox.events none greeted).unread ++ es)
      rw [hconfirm, unread_confirm, ← putOff_confirm]

end Session

/-- The responses among the frames of a handshake are those that it has sent. -/
theorem replies_handshake (clientName : String) (ts : List String) :
    Frame.replies (Session.greeting clientName :: ts.filterMap Rpc.reply? ++ [Session.confirmation])
      = ts.filterMap Rpc.reply? := by
  show Frame.replies ([Session.greeting clientName] ++ ts.filterMap Rpc.reply?
    ++ [Session.confirmation]) = _
  rw [Frame.replies_append, Frame.replies_append, Frame.replies_eq_self isReply_of_mem_filterMap]
  exact List.append_nil _

/-! ## In a poll -/

/-- What a message of the session comes to: the result of the poll, the editor after it, and what
is added to the log. -/
def Editor.heed (text : String) (e : Editor) :
    Except BridgeError (Option BridgeEvent) × Editor × List (Severity × String) :=
  match Message.read text with
  | .error err => (.error (.malformedMessage err), e, [])
  | .ok (.request _ _ _) => (.ok none, e, [])
  | .ok (.response _ _ _) => (.ok none, e, [])
  | .ok (.notification method params) =>
    match ServerNotification.decode method params with
    | .error err => (.error (.payload err), e, [])
    | .ok none => (.ok none, e, [])
    | .ok (some n) =>
      match e.applyNotification n with
      | .error err => (.error err, e, [])
      | .ok e => (.ok (some (.notification n)), e, n.logged)

/-- The lines after the response to a message, if it is a request and the response is accepted. -/
def Rpc.Lines.replied (c : Connection) (text : String) (lines : Lines) : Lines :=
  match Rpc.reply? text with
  | none => lines
  | some f => (lines.send c f).getD lines

theorem Rpc.Lines.queued_replied {c : Connection} {lines : Lines} (last : Lasting c.line lines)
    (text : String) :
    Queued c.line (Rpc.reply? text).toList lines (lines.replied c text) := by
  unfold Rpc.Lines.replied
  cases Rpc.reply? text with
  | none => exact Queued.refl _ _
  | some f =>
      obtain ⟨lines', hsend, -⟩ := last.send f
      dsimp only
      rw [hsend]
      exact Rpc.Lines.queued_of_send hsend

theorem Rpc.Lines.lasting_replied {l : Nat} {lines : Lines} (last : Lasting l lines)
    (c : Connection) (text : String) : Lasting l (lines.replied c text) := by
  unfold Rpc.Lines.replied
  cases Rpc.reply? text with
  | none => exact last
  | some f =>
      dsimp only
      cases hs : lines.send c f with
      | none => exact last
      | some lines' => exact last.of_send hs

namespace Bridge

/-- What a poll makes of a message of the session. -/
theorem handled_message_eq (limit : Option Nat) {b : Bridge} {s : Session}
    (active : b.session = some s) (text : String) :
    b.handled limit (.message s.id text)
      = ((b.editor.heed text).1,
        { b with
          editor := (b.editor.heed text).2.1
          lines := b.lines.replied s.client.connection text
          log := b.log ++ (b.editor.heed text).2.2 }) := by
  rw [handled_message limit active]
  unfold handleMessage Editor.heed
  cases hm : Message.read text with
  | error err =>
      rw [Rpc.Lines.replied, Rpc.reply?_eq_none (by simp [hm])]
      simp
  | ok m =>
      cases m with
      | request id method params =>
          rw [Rpc.Lines.replied, Rpc.reply?_of_request hm]
          simp only [Session.answer, Client.answer, Client.send]
          cases b.lines.send s.client.connection (Frame.answer id method params) <;> simp
      | response id result error =>
          rw [Rpc.Lines.replied, Rpc.reply?_eq_none (by simp [hm])]
          simp
      | notification method params =>
          rw [Rpc.Lines.replied, Rpc.reply?_eq_none (by simp [hm])]
          dsimp only
          cases ServerNotification.decode method params with
          | error err => simp
          | ok found =>
              cases found with
              | none => simp
              | some n =>
                  dsimp only
                  cases b.editor.applyNotification n <;> simp

end Bridge

end SurfaceBridge
