import SurfaceBridge.Proofs.Bridge.Messages
import SurfaceBridge.Proofs.Bridge.Run

set_option autoImplicit false

/-! # Polls that fail

A poll fails if the transport has come to its end, or if the next message of the session is
`Refused`, which is a matter of the text of the message alone. Either way it has dispatched the
changes that wait and has done nothing else (`intact_of_error`).

A notification may take several updates of the workspace, one after the other. `applyInPlace` makes
them in place, so that what one of them has changed stays changed if a later one fails. It comes to
the same as `applyNotification`, because the check before the first update excludes that a later
one fails.
-/

namespace SurfaceBridge

open Rpc (Message)

/-! ## Updates in place -/

namespace Workspace

theorem exists_setText {w : Workspace} {s : Surface} (opened : w.isOpen s = true) (text : String) :
    ∃ change w', w.setText s text = .ok (change, w') ∧ w'.isOpen s = true := by
  obtain ⟨d, hd⟩ := Option.isSome_iff_exists.1 opened
  simp only [setText, hd]
  refine ⟨_, _, rfl, ?_⟩
  simp [isOpen, document, Panes.get_set]

theorem exists_setLanguage {w : Workspace} {s : Surface} (opened : w.isOpen s = true)
    (language : String) : ∃ w', w.setLanguage s language = .ok w' := by
  obtain ⟨d, hd⟩ := Option.isSome_iff_exists.1 opened
  simp only [setLanguage, hd]
  exact ⟨_, rfl⟩

end Workspace

namespace Editor

/-- One more update of the workspace, unless an update before it has failed. -/
def update (f : Workspace → Except SurfaceNotOpen Workspace)
    (p : Except BridgeError Unit × Editor) : Except BridgeError Unit × Editor :=
  match p with
  | (.error err, e) => (.error err, e)
  | (.ok (), e) =>
    match f e.workspace with
    | .error err => (.error (.surfaceNotOpen err), e)
    | .ok w => (.ok (), { e with workspace := w })

/-- Applies a notification in place, update by update. -/
def applyInPlace (n : ServerNotification) (e : Editor) : Except BridgeError Unit × Editor :=
  match n with
  | .highlighting rows =>
    match Classifier.ofTable e.engine rows with
    | .error pattern => (.error (.invalidPattern pattern), e)
    | .ok c => (.ok (), e) |> update fun w => .ok (w.setClassifier Language.codeId c)
  | .generatedCode language implementation =>
    if e.workspace.isOpen .output then
      (.ok (), e)
        |> update (fun w => (w.setText .output implementation).map Prod.snd)
        |> update fun w => w.setLanguage .output (Text.lowerCase language)
    else (.ok (), e)
  | .commentKeyword token =>
    (.ok (), e) |> update fun w =>
      .ok (w.withLanguages fun r => (r.setLineComment Language.codeId token).2)
  | .message _ _ _ => (.ok (), e)

/-- Generated code can always be shown: if the output is open, it is still open after the first
update. -/
theorem exists_showCode (language implementation : String) (e : Editor) :
    ∃ e', e.showCode language implementation = .ok e'
      ∧ e.applyInPlace (.generatedCode language implementation) = (.ok (), e') := by
  by_cases isOpen : e.workspace.isOpen .output = true
  · obtain ⟨change, typed, htyped, stillOpen⟩ := Workspace.exists_setText isOpen implementation
    obtain ⟨relabelled, hrelabelled⟩ :=
      Workspace.exists_setLanguage stillOpen (Text.lowerCase language)
    refine ⟨{ e with workspace := relabelled }, ?_, ?_⟩
    · simp [showCode, isOpen, htyped, hrelabelled]
    · simp [applyInPlace, update, isOpen, htyped, hrelabelled, Except.map]
  · refine ⟨e, ?_, ?_⟩
    · simp [showCode, isOpen]
    · simp [applyInPlace, isOpen]

/-- A notification that fails has no effect, also in place. -/
theorem applyInPlace_eq (n : ServerNotification) (e : Editor) :
    e.applyInPlace n
      = ((e.applyNotification n).map fun _ => (), (e.applyNotification n).toOption.getD e) := by
  cases n with
  | highlighting rows =>
      simp only [applyInPlace, applyNotification]
      cases Classifier.ofTable e.engine rows <;> rfl
  | generatedCode language implementation =>
      obtain ⟨e', hshow, hinPlace⟩ := exists_showCode language implementation e
      rw [hinPlace]
      simp only [applyNotification, hshow]
      rfl
  | commentKeyword token => rfl
  | message shown severity text => rfl

end Editor

/-! ## Messages that are refused -/

/-- Why the text of a message is refused: it is no message, its payload is not decoded, or a
pattern in it does not compile. -/
inductive Refused (engine : Pattern.Engine) (text : String) : BridgeError → Prop where
  | message {err : Rpc.MessageError} (unread : Message.read text = .error err) :
      Refused engine text (.malformedMessage err)
  | payload {method : String} {params : Json} {err : PayloadError}
      (read : Message.read text = .ok (.notification method params))
      (undecoded : ServerNotification.decode method params = .error err) :
      Refused engine text (.payload err)
  | pattern {method pattern : String} {params : Json} {rows : List (String × TokenClass)}
      (read : Message.read text = .ok (.notification method params))
      (decoded : ServerNotification.decode method params = .ok (some (.highlighting rows)))
      (bad : Classifier.ofTable engine rows = .error pattern) :
      Refused engine text (.invalidPattern pattern)

theorem Refused.reply?_eq_none {engine : Pattern.Engine} {text : String} {err : BridgeError}
    (h : Refused engine text err) : Rpc.reply? text = none := by
  refine Rpc.reply?_eq_none fun id method params hread => ?_
  cases h with
  | message unread =>
      rw [unread] at hread
      cases hread
  | payload read =>
      rw [read] at hread
      cases hread
  | pattern read =>
      rw [read] at hread
      cases hread

namespace Editor

/-- Only a table can fail to be applied. -/
theorem applyNotification_eq_error {n : ServerNotification} {e : Editor} {err : BridgeError}
    (h : e.applyNotification n = .error err) :
    ∃ rows pattern, n = .highlighting rows ∧ Classifier.ofTable e.engine rows = .error pattern
      ∧ err = .invalidPattern pattern := by
  cases n with
  | highlighting rows =>
      simp only [applyNotification] at h
      cases htable : Classifier.ofTable e.engine rows with
      | error pattern =>
          rw [htable] at h
          cases h
          exact ⟨rows, pattern, rfl, htable, rfl⟩
      | ok c =>
          rw [htable] at h
          cases h
  | generatedCode language implementation =>
      obtain ⟨e', hshow, -⟩ := exists_showCode language implementation e
      simp [applyNotification, hshow] at h
  | commentKeyword token => cases h
  | message shown severity text => cases h

/-- A message that fails is refused, and leaves the editor and the log as they are. -/
theorem refused_of_heed {text : String} {e : Editor} {err : BridgeError}
    (h : (e.heed text).1 = .error err) :
    Refused e.engine text err ∧ e.heed text = (.error err, e, []) := by
  unfold heed at h ⊢
  cases hread : Message.read text with
  | error problem =>
      simp only [hread] at h ⊢
      cases h
      exact ⟨.message hread, rfl⟩
  | ok m =>
      cases m with
      | request id method params => simp [hread] at h
      | response id result error => simp [hread] at h
      | notification method params =>
          cases hdecode : ServerNotification.decode method params with
          | error problem =>
              simp only [hread, hdecode] at h ⊢
              cases h
              exact ⟨.payload hread hdecode, rfl⟩
          | ok found =>
              cases found with
              | none => simp [hread, hdecode] at h
              | some n =>
                  cases happ : e.applyNotification n with
                  | error problem =>
                      simp only [hread, hdecode, happ] at h ⊢
                      cases h
                      obtain ⟨rows, pattern, rfl, htable, rfl⟩ := applyNotification_eq_error happ
                      exact ⟨.pattern hread hdecode htable, rfl⟩
                  | ok e' => simp [hread, hdecode, happ] at h

end Editor

/-! ## What a failing poll leaves -/

/-- Beside the events that wait, a bridge is what dispatching makes of another one. -/
structure Intact (b after : Bridge) : Prop where
  editor : after.editor = b.dispatch.editor
  workspace : after.editor.workspace = { b.editor.workspace with changes := [] }
  controls : after.editor.controls = b.editor.controls
  lines : after.lines = b.dispatch.lines
  session : after.session = b.session
  isReady : after.isReady = b.isReady
  clientName : after.clientName = b.clientName
  log : after.log = b.log
  hungUp : after.inbox.hungUp = b.inbox.hungUp

/-- The events that wait after an event has been taken: it was the first of those that were put
off, or there were none of these and it was the first of the inbox. -/
inductive Takes (e : Event) (b after : Bridge) : Prop where
  | putOff (backlog : b.backlog = e :: after.backlog) (inbox : after.inbox = b.inbox)
  | received (backlog : b.backlog = [] ∧ after.backlog = [])
      (inbox : b.inbox.events = e :: after.inbox.events)

namespace Editor

theorem controls_absorb (e : Editor) (c : Change) : (e.absorb c).controls = e.controls := by
  unfold absorb store
  split
  · rfl
  · split
    · rfl
    · split <;> rfl

theorem controls_absorbed (e : Editor) : e.absorbed.controls = e.controls := by
  have key : ∀ (changes : List Change) (e : Editor),
      (changes.foldl absorb e).controls = e.controls := by
    intro changes
    induction changes with
    | nil => exact fun _ => rfl
    | cons c changes ih => exact fun e => (ih (e.absorb c)).trans (e.controls_absorb c)
  exact key e.workspace.changes e.settled

end Editor

namespace Bridge

theorem intact_dispatch (b : Bridge) : Intact b b.dispatch where
  editor := rfl
  workspace := by
    rw [editor_dispatch, Editor.absorbed_workspace]
    rfl
  controls := by
    rw [editor_dispatch, Editor.controls_absorbed]
  lines := rfl
  session := rfl
  isReady := rfl
  clientName := rfl
  log := rfl
  hungUp := rfl

theorem takes_of_next {b taken : Bridge} {e : Event}
    (next : b.dispatch.nextEvent = some (e, taken)) : Takes e b taken := by
  unfold nextEvent at next
  split at next
  · rename_i rest hb
    cases next
    exact .putOff hb rfl
  · rename_i rest hb hi
    cases next
    exact .received ⟨hb, hb⟩ hi
  · cases next

/-- Taking an event changes nothing but the events that wait. -/
theorem intact_of_next {b taken : Bridge} {e : Event}
    (next : b.dispatch.nextEvent = some (e, taken)) : Intact b taken := by
  obtain ⟨heditor, hworkspace, hcontrols, hlines, hsession, hready, hname, hlog, hhung⟩ :=
    intact_dispatch b
  -- the bridge without the event differs from the dispatched one in what waits only
  rw [(nextEvent_eq_some next).2.1]
  exact ⟨heditor, hworkspace, hcontrols, hlines, hsession, hready, hname, hlog, hhung⟩

/-- Only a message of the session can fail to be handled, and then nothing has happened. -/
theorem refused_of_handled {limit : Option Nat} {b : Bridge} {e : Event} {err : BridgeError}
    (failed : (b.handled limit e).1 = .error err) :
    (∃ s text, b.session = some s ∧ e = .message s.id text ∧ Refused b.editor.engine text err)
      ∧ (b.handled limit e).2 = b := by
  by_cases old : b.IsStale e
  · rw [handled_stale old] at failed
    cases failed
  · rcases eq_of_not_isStale old with ⟨c, rfl⟩ | ⟨s, hs, rfl | ⟨text, rfl⟩⟩
    · rw [handled_opened] at failed
      cases h : (b.handshake c limit).outcome <;> simp [h] at failed
    · rw [handled_closed limit hs] at failed
      cases failed
    · rw [handled_message_eq limit hs] at failed ⊢
      obtain ⟨hrefused, hheed⟩ := Editor.refused_of_heed failed
      refine ⟨⟨s, text, hs, rfl, hrefused⟩, ?_⟩
      simp [hheed, Rpc.Lines.replied, hrefused.reply?_eq_none]

/-- A poll that fails has dispatched the changes that wait. Beside that, it has taken the message
of the session that is refused, or nothing at all if the transport has come to its end. -/
theorem intact_of_error (b : Bridge) (limit : Option Nat) (err : BridgeError)
    (failed : (b.poll limit).1 = .error err) :
    Intact b (b.poll limit).2
      ∧ ((err = .transportClosed ∧ b.inbox.hungUp = true ∧ b.waiting = []
          ∧ (b.poll limit).2 = b.dispatch)
        ∨ ∃ s text, b.session = some s ∧ Refused b.editor.engine text err
          ∧ Takes (.message s.id text) b (b.poll limit).2)
      ∧ ∀ (n : ServerNotification) (e : Editor), e.applyInPlace n
        = ((e.applyNotification n).map fun _ => (), (e.applyNotification n).toOption.getD e) := by
  cases next : b.dispatch.nextEvent with
  | none =>
      rw [poll_of_none next] at failed ⊢
      have hhung : b.inbox.hungUp = true := by
        by_contra hopen
        rw [if_neg (show ¬ b.dispatch.inbox.hungUp = true from hopen)] at failed
        cases failed
      rw [if_pos (show b.dispatch.inbox.hungUp = true from hhung)] at failed
      cases failed
      have hempty : b.dispatch.waiting = [] := waiting_of_none next
      exact ⟨intact_dispatch b, Or.inl ⟨rfl, hhung, hempty, rfl⟩,
        fun n e => e.applyInPlace_eq n⟩
  | some p =>
      obtain ⟨e, taken⟩ := p
      rw [poll_of_next next] at failed ⊢
      obtain ⟨⟨s, text, hs, rfl, hrefused⟩, hsame⟩ := refused_of_handled failed
      have hactive : b.session = some s := (nextEvent_keeps next).2.2.2.symm.trans hs
      rw [(nextEvent_keeps next).1, editor_dispatch, Editor.absorbed_engine] at hrefused
      rw [hsame]
      exact ⟨intact_of_next next, Or.inr ⟨s, text, hactive, hrefused, takes_of_next next⟩,
        fun n e => e.applyInPlace_eq n⟩

/-- A text that is no message, while a change waits. -/
theorem intact_of_error_unread :
    ∃ (b : Bridge) (err : BridgeError), (b.poll none).1 = .error err
      ∧ b.editor.content.get? .schema = none ∧ b.waiting = [.message 1 "\x7b", .closed 1]
      ∧ (b.poll none).2.editor.content.get? .schema = some "b: 2"
      ∧ (b.poll none).2.isReady = true ∧ (b.poll none).2.waiting = [.closed 1] := by
  generalize hb : (ofEditor .sample "page").run (Action.welcome 1
    ++ [.direct (.setText .schema "b: 2"), .signal (.message 1 "\x7b"), .signal (.closed 1)]) = b
  have hstored : b.dispatch.editor.content.get? .schema = some "b: 2" := by
    rw [← hb]
    cbv
  have hbefore : b.editor.content.get? .schema = none := by
    rw [← hb]
    cbv
  have hready : b.isReady = true := by
    rw [← hb]
    cbv
  have hbacklog : b.backlog = [] := by
    rw [← hb]
    cbv
  have hinbox : b.inbox.events = [.message 1 "\x7b", .closed 1] := by
    rw [← hb]
    cbv
  have hfailed : (b.poll none).1.toOption = none := by
    rw [← hb]
    cbv
  cases herr : (b.poll none).1 with
  | ok event => simp [herr, Except.toOption] at hfailed
  | error err =>
      obtain ⟨hintact, hcause, -⟩ := intact_of_error b none err herr
      refine ⟨b, err, herr, hbefore, by simp [waiting, hbacklog, hinbox], ?_, ?_, ?_⟩
      · rw [hintact.editor, hstored]
      · rw [hintact.isReady, hready]
      · rcases hcause with ⟨-, -, hempty, -⟩ | ⟨s, text, -, -, htakes⟩
        · simp [waiting, hinbox] at hempty
        · cases htakes with
          | putOff backlog => simp [hbacklog] at backlog
          | received backlog inbox =>
              rw [hinbox] at inbox
              rw [waiting, backlog.2, ← (List.cons.inj inbox).2]
              rfl

end Bridge

end SurfaceBridge
