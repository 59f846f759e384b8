import SurfaceBridge.Proofs.Bridge.Report
import SurfaceBridge.Proofs.Bridge.Resending

set_option autoImplicit false

/-! # What actions send

Beside the changes that it dispatches, an action sends little: a call sends what `Editor.called` says,
and a poll what the event that it handles asks for (`EventSends`). A request of the session is
answered, a connection that opens is greeted, and a session that starts is told the state of the
editor. `exists_sent_poll` and `framesAt_told_eq` say that this is all, frame by frame and on each
line.

About the schema, only the state of the editor says something (`Sends.isNotice_eq_false`).
-/

namespace SurfaceBridge

open Rpc (Connection Frame Lines Request)

theorem isNotice_of_isReply {f : Frame} (h : f.isReply = true) (m : String) :
    f.isNotice m = false := by
  cases f with
  | notification method params => cases h
  | _ => rfl

/-- A call that neither dispatches nor sends the state of the schema is not about the schema. -/
theorem Editor.lastNotice_called (e : Editor) {a : Action} (notEdit : ∀ s text, a ≠ .edit s text)
    (notState : a ≠ .sendSchemaState) :
    lastNotice schemaMethod (frames (e.called a).2) = none := by
  have hoption : ∀ (e : Editor) kind,
      lastNotice schemaMethod (frames (e.optionCalled kind).2) = none := by
    intro e kind
    unfold Editor.optionCalled
    cases e.controls.selected? kind with
    | none => rfl
    | some value =>
        exact (Editor.lastNotice_optionNotices _ kind value schemaMethod).trans
          (if_neg (Ne.symm (schemaMethod_ne kind)))
  cases a with
  | edit s text => exact absurd rfl (notEdit s text)
  | selectOption kind value =>
      simp only [Editor.called]
      rcases e.controls.select kind value with ⟨accepted, controls⟩
      rcases accepted with _ | _ | _
      · rfl
      · rfl
      · exact hoption _ kind
  | optionChanged kind => exact hoption e kind
  | sendSchemaState => exact absurd rfl notState
  | sendOptionState => exact (e.lastNotice_optionStateNotices .culture).1
  | _ => rfl

namespace Bridge

variable {limit : Option Nat} {l : Nat} {b taken : Bridge} {e : Event} {a : Action}
variable {fs : List Frame}

/-! ## Events -/

/-- What the handling of an event sends on a line: the response to a request of the session, or what
a connection that opens is greeted with. If nobody reads the first frame of a handshake, there are
no others, and if the handshake succeeds, the state of the editor follows. -/
inductive EventSends (limit : Option Nat) (l : Nat) (b : Bridge) : Event → List Frame → Prop where
  | closed {id : Nat} : EventSends limit l b (.closed id) []
  | silent {id : Nat} {text : String}
      (noRequest : ∀ s, b.session = some s → id = s.id → Request.read? text = none) :
      EventSends limit l b (.message id text) []
  | answered {s : Session} {text : String} {r : Request} {f : Frame} (active : b.session = some s)
      (read : Request.read? text = some r) (answer : r.IsAnsweredBy f) :
      EventSends limit l b (.message s.id text) (b.heardAt l [f])
  | elsewhere {c : Connection} (other : l ≠ c.line) : EventSends limit l b (.opened c) []
  | unread {c : Connection} (unread : b.lines.send c (Session.greeting b.clientName) = none) :
      EventSends limit l b (.opened c) []
  | refused {c : Connection} {err : BridgeError} {answers : List Frame} (line : l = c.line)
      (isAnswer : ∀ f ∈ answers, f.IsAnswer) (failed : (b.handshake c limit).outcome = .error err) :
      EventSends limit l b (.opened c) (Session.greeting b.clientName :: answers)
  | started {c : Connection} {answers : List Frame} (line : l = c.line)
      (isAnswer : ∀ f ∈ answers, f.IsAnswer) (ok : (b.handshake c limit).outcome = .ok ()) :
      EventSends limit l b (.opened c)
        (Session.greeting b.clientName :: answers ++ Session.confirmation
          :: (b.withSession c limit).heardAt l (frames b.editor.currentState))

theorem heardAt_nil (l : Nat) (b : Bridge) : b.heardAt l [] = [] := by
  unfold heardAt
  cases b.session <;> simp

theorem framesAt_replied {s : Session} (active : b.session = some s) (text : String) (l : Nat) :
    (b.lines.replied s.client.connection text).framesAt l
      = b.lines.framesAt l ++ b.heardAt l (Rpc.reply? text).toList := by
  unfold Rpc.Lines.replied
  cases Rpc.reply? text with
  | none => simp [heardAt_nil]
  | some f =>
      rw [heardAt, active]
      dsimp only
      by_cases hl : s.line = l
      · subst hl
        rw [if_pos rfl]
        cases hsend : b.lines.send s.client.connection f with
        | none =>
            have hroom : b.lines.allowance s.line 1 = 0 := Lines.allowance_of_not_sent hsend 1
            simp [hroom]
        | some lines =>
            have hroom : b.lines.allowance s.line 1 = lines.allowance s.line 0 + 1 :=
              Lines.allowance_of_sent hsend 0
            have hframes : lines.framesAt s.line = b.lines.framesAt s.line ++ [f] :=
              (Lines.queued_of_send hsend).frames
            simp [hroom, hframes]
      · rw [if_neg hl]
        cases hsend : b.lines.send s.client.connection f with
        | none => simp
        | some lines =>
            have hframes : lines.framesAt l = b.lines.framesAt l :=
              (Lines.queued_of_send hsend).framesAt_of_ne (Ne.symm hl)
            simp [hframes]

theorem exists_sent_message (limit : Option Nat) (l id : Nat) (text : String) (b : Bridge) :
    ∃ fs, b.EventSends limit l (.message id text) fs
      ∧ (b.handled limit (.message id text)).2.lines.framesAt l = b.lines.framesAt l ++ fs := by
  by_cases hown : ∃ s, b.session = some s ∧ id = s.id
  · obtain ⟨s, active, rfl⟩ := hown
    have hframes : (b.handled limit (.message s.id text)).2.lines.framesAt l
        = b.lines.framesAt l ++ b.heardAt l (Rpc.reply? text).toList := by
      rw [handled_message_eq limit active]
      exact framesAt_replied active text l
    refine ⟨_, ?_, hframes⟩
    cases hread : Request.read? text with
    | none =>
        rw [Rpc.reply?, hread, Option.map_none, Option.toList_none, heardAt_nil]
        exact .silent fun _ _ _ => hread
    | some r =>
        rw [Rpc.reply?, hread]
        exact .answered active hread (Request.isAnsweredBy_reply r)
  · have hother : ∀ s, b.session = some s → id ≠ s.id := fun s hs hid => hown ⟨s, hs, hid⟩
    have hstale : b.IsStale (.message id text) := ⟨by simp, hother⟩
    refine ⟨[], .silent fun s hs hid => absurd hid (hother s hs), ?_⟩
    rw [handled_stale hstale, List.append_nil]

theorem exists_sent_opened (limit : Option Nat) (l : Nat) (c : Connection) (b : Bridge) :
    ∃ fs, b.EventSends limit l (.opened c) fs
      ∧ (b.handled limit (.opened c)).2.lines.framesAt l = b.lines.framesAt l ++ fs := by
  obtain ⟨fs, queued, hcases⟩ := (b.handshake_spec c limit).queued
  rw [handled_opened]
  by_cases hl : l = c.line
  · -- the connection has its own line, so all frames of the handshake are on it
    have hhands : (b.handshake c limit).lines.framesAt l = b.lines.framesAt l ++ fs := by
      rw [hl]
      exact queued.frames
    rcases hcases with ⟨⟨err, ho⟩, hunread, rfl⟩ | ⟨⟨err, ho⟩, answers, isAnswer, rfl⟩
      | ⟨ho, answers, isAnswer, rfl⟩
    · rw [ho]
      exact ⟨[], .unread hunread, hhands⟩
    · rw [ho]
      exact ⟨_, .refused hl isAnswer ho, hhands⟩
    · rw [ho]
      refine ⟨_, .started hl isAnswer ho, ?_⟩
      have hstate := framesAt_told_eq (b.withSession c limit) b.editor.reflectOptions
        b.editor.currentState l
      dsimp only
      rw [withSession_told, hstate]
      show (b.handshake c limit).lines.framesAt l ++ _ = _
      rw [hhands]
      simp [frames]
  · refine ⟨[], .elsewhere hl, ?_⟩
    have hhands : (b.handshake c limit).lines.framesAt l = b.lines.framesAt l :=
      queued.framesAt_of_ne hl
    cases ho : (b.handshake c limit).outcome with
    | error err => exact hhands.trans (List.append_nil _).symm
    | ok u =>
        have hne : ∀ s, (b.withSession c limit).session = some s → l ≠ s.line := by
          intro s hs
          cases hs
          rw [line_handshake]
          exact hl
        dsimp only
        rw [withSession_told, framesAt_told _ _ _ hne]
        exact hhands.trans (List.append_nil _).symm

theorem exists_sent_handled (limit : Option Nat) (l : Nat) (e : Event) (b : Bridge) :
    ∃ fs, b.EventSends limit l e fs
      ∧ (b.handled limit e).2.lines.framesAt l = b.lines.framesAt l ++ fs := by
  cases e with
  | opened c => exact exists_sent_opened limit l c b
  | message id text => exact exists_sent_message limit l id text b
  | closed id =>
      obtain ⟨event, session, hdone⟩ := exists_handled_closed limit id b
      rw [hdone]
      exact ⟨[], .closed, (List.append_nil _).symm⟩

/-! ## Actions -/

/-- What an action sends on a line beside the changes that it dispatches. The transport sends nothing
and neither does an edit, which only dispatches. -/
inductive Sends (l : Nat) (b : Bridge) : Action → List Frame → Prop where
  | transport {a : Action} (transport : a.isTransport = true) : Sends l b a []
  | idle {limit : Option Nat} (next : b.dispatch.nextEvent = none) : Sends l b (.poll limit) []
  | handled {limit : Option Nat} {e : Event} {taken : Bridge} {fs : List Frame}
      (next : b.dispatch.nextEvent = some (e, taken)) (sent : taken.EventSends limit l e fs) :
      Sends l b (.poll limit) fs
  | edit {s : Surface} {text : String} : Sends l b (.edit s text) []
  | called {a : Action} (call : a.isCall = true) (notEdit : ∀ s text, a ≠ .edit s text) :
      Sends l b a (b.heardAt l (frames (b.editor.called a).2))

theorem Sends.eq_nil_of_edit {s : Surface} {text : String} (h : b.Sends l (.edit s text) fs) :
    fs = [] := by
  cases h with
  | transport transport => cases transport
  | edit => rfl
  | called call notEdit => exact absurd rfl (notEdit s text)

/-- A poll dispatches, and what it sends then is for the event that it handles. -/
theorem exists_sent_poll (limit : Option Nat) (l : Nat) (b : Bridge) :
    ∃ fs, b.Sends l (.poll limit) fs
      ∧ (b.poll limit).2.lines.framesAt l = b.dispatch.lines.framesAt l ++ fs := by
  cases next : b.dispatch.nextEvent with
  | none =>
      rw [poll_of_none next]
      exact ⟨[], .idle next, (List.append_nil _).symm⟩
  | some p =>
      obtain ⟨e, taken⟩ := p
      obtain ⟨fs, hsent, hframes⟩ := exists_sent_handled limit l e taken
      rw [(nextEvent_keeps next).2.2.1] at hframes
      rw [poll_of_next next]
      exact ⟨fs, .handled next hsent, hframes⟩

/-- An action sends the state of the schema if the host asks for it and if a session starts. -/
def SendsState (a : Action) (b : Bridge) : Prop :=
  a = .sendSchemaState ∨ ∃ id, b.eventOf a = some (.sessionStarted id)

theorem mem_of_mem_heardAt {f : Frame} (h : f ∈ b.heardAt l fs) : f ∈ fs := by
  unfold heardAt at h
  split at h
  · split at h
    · exact List.mem_of_mem_take h
    · cases h
  · cases h

/-- Unless it starts a session, an event brings about nothing about the schema. -/
theorem EventSends.isNotice_eq_false (h : b.EventSends limit l e fs) :
    (∃ id, (b.handled limit e).1.toOption.join = some (.sessionStarted id))
      ∨ ∀ f ∈ fs, f.isNotice schemaMethod = false := by
  cases h with
  | @started c answers line isAnswer ok =>
      rw [handled_opened, ok]
      exact Or.inl ⟨c.id, rfl⟩
  | @answered s text r f active read answer =>
      refine Or.inr fun g hg => ?_
      rw [List.mem_singleton.1 (mem_of_mem_heardAt hg)]
      exact isNotice_of_isReply answer.isReply _
  | @refused c err answers line isAnswer failed =>
      refine Or.inr fun f hf => ?_
      rcases List.mem_cons.1 hf with rfl | hf
      · rfl
      · exact isNotice_of_isAnswer (isAnswer f hf) _
  | _ => exact Or.inr (by simp)

/-- Beside the changes that it dispatches, an action sends nothing about the schema unless it sends
the state of the schema. -/
theorem Sends.isNotice_eq_false (h : b.Sends l a fs) :
    b.SendsState a ∨ ∀ f ∈ fs, f.isNotice schemaMethod = false := by
  cases h with
  | @handled limit e taken _ next sent =>
      rcases sent.isNotice_eq_false with ⟨id, hstarted⟩ | hothers
      · refine Or.inl (Or.inr ⟨id, ?_⟩)
        show (b.poll limit).1.toOption.join = _
        rw [poll_of_next next, hstarted]
      · exact Or.inr hothers
  | called call notEdit =>
      by_cases hstate : a = .sendSchemaState
      · exact Or.inl (Or.inl hstate)
      · have hnotice := b.editor.lastNotice_called notEdit hstate
        exact Or.inr fun f hf => isNotice_of_lastNotice hnotice f (mem_of_mem_heardAt hf)
  | _ => exact Or.inr (by simp)

end Bridge

end SurfaceBridge
