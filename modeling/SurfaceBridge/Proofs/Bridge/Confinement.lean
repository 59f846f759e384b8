import SurfaceBridge.Proofs.Bridge.Deferral
import SurfaceBridge.Proofs.Bridge.Failures

set_option autoImplicit false

/-! # What a message can change

A message of the session changes one thing at most, and its kind decides which (`Confined`). A
notification has an `Effect` on the editor: on the classifier or the comments of the language of
code, or on the output. A request is answered, and everything else leaves the bridge as it is.

Code that is shown in the output makes a change that waits to be dispatched, and the server says
what language the code is in. `overlook_run` says that this change comes to nothing later on: a run
goes on in the same way without it, whatever the host and the server do.
-/

namespace SurfaceBridge

open Rpc (Frame Message)
open Rpc.Lines (Queued)

/-! ## Changes of the output that wait -/

namespace Editor

/-- The editor without the changes of the output that wait. -/
def overlook (e : Editor) : Editor :=
  { e with
    workspace := { e.workspace with
      changes := e.workspace.changes.filter fun c => c.surface ≠ .output } }

variable (e : Editor)

theorem waitingNotices_overlook : e.overlook.waitingNotices = e.waitingNotices := by
  have hnotices : e.overlook.changeNotices = e.changeNotices :=
    funext (changeNotices_congr rfl)
  have hfilter : ∀ cs : List Change,
      (cs.filter fun c => c.surface ≠ .output).flatMap e.changeNotices
        = cs.flatMap e.changeNotices := by
    intro cs
    induction cs with
    | nil => rfl
    | cons c cs ih =>
        by_cases hc : c.surface = .output
        · have hnone : e.changeNotices c = [] := if_pos hc
          rw [List.filter_cons_of_neg (by simp [hc]), List.flatMap_cons, hnone, ih]
          rfl
        · rw [List.filter_cons_of_pos (by simp [hc]), List.flatMap_cons, List.flatMap_cons, ih]
  rw [waitingNotices, hnotices]
  exact hfilter e.workspace.changes

theorem absorbed_overlook : e.overlook.absorbed = e.absorbed :=
  foldl_absorb_filter e.settled e.workspace.changes

theorem absorbed_congr {e e' : Editor} (h : e'.overlook = e.overlook) :
    e'.absorbed = e.absorbed ∧ e'.waitingNotices = e.waitingNotices := by
  constructor
  · rw [← absorbed_overlook e', h, absorbed_overlook]
  · rw [← waitingNotices_overlook e', h, waitingNotices_overlook]

/-- A text can be replaced as well if the changes of the output are overlooked. -/
theorem setText_overlook (s : Surface) (text : String) :
    (∃ err, e.workspace.setText s text = .error err
        ∧ e.overlook.workspace.setText s text = .error err)
      ∨ ∃ c w w', e.workspace.setText s text = .ok (c, w)
        ∧ e.overlook.workspace.setText s text = .ok (c, w')
        ∧ ({ e.overlook with workspace := w' }).overlook
          = ({ e with workspace := w }).overlook := by
  have hdocument : e.overlook.workspace.document s = e.workspace.document s := rfl
  unfold Workspace.setText
  rw [hdocument]
  cases e.workspace.document s with
  | none => exact Or.inl ⟨_, rfl, rfl⟩
  | some d =>
      refine Or.inr ⟨_, _, _, rfl, rfl, ?_⟩
      simp [overlook, List.filter_append]

theorem overlook_act (a : EditorAction) : (e.overlook.act a).overlook = (e.act a).overlook := by
  cases a with
  | setText s text =>
      simp only [act, Workspace.typed]
      rcases e.setText_overlook s text with ⟨err, he, he'⟩ | ⟨c, w, w', he, he', hw⟩
      · rw [he, he']
        simp [overlook]
      · rw [he, he']
        exact hw
  | setLanguage s language =>
      have hdocument : e.overlook.workspace.document s = e.workspace.document s := rfl
      simp only [act, Workspace.relabelled, Workspace.setLanguage, hdocument]
      cases e.workspace.document s <;> simp [overlook]
  | _ => simp [overlook, act, Workspace.openDocument, Workspace.close, Workspace.takeChanges,
      Workspace.setClassifier, Workspace.withLanguages, store]

@[simp] theorem overlook_overlook : e.overlook.overlook = e.overlook := by
  simp [overlook]

theorem optionCalled_overlook (kind : OptionKind) :
    (e.overlook.optionCalled kind).1.overlook = (e.optionCalled kind).1.overlook
      ∧ (e.overlook.optionCalled kind).2 = (e.optionCalled kind).2 := by
  have hselected : e.overlook.controls.selected? kind = e.controls.selected? kind := rfl
  unfold optionCalled
  rw [hselected]
  cases e.controls.selected? kind with
  | none => exact ⟨e.overlook_overlook, rfl⟩
  | some value => exact ⟨(e.store kind.contentKey value).overlook_overlook, rfl⟩

theorem reflectOption_overlook (kind : OptionKind) :
    e.overlook.reflectOption kind = (e.reflectOption kind).overlook := by
  have hcontent : e.overlook.content.get? kind.contentKey = e.content.get? kind.contentKey := rfl
  unfold reflectOption
  rw [hcontent]
  cases e.content.get? kind.contentKey <;> rfl

theorem reflectOptions_overlook : e.overlook.reflectOptions = e.reflectOptions.overlook := by
  show (e.overlook.reflectOption .culture).reflectOption .language
    = ((e.reflectOption .culture).reflectOption .language).overlook
  rw [reflectOption_overlook, reflectOption_overlook]

/-- A call of the host comes to the same, and the same is sent for it. -/
theorem called_overlook (a : Action) :
    (e.overlook.called a).1.overlook = (e.called a).1.overlook
      ∧ (e.overlook.called a).2 = (e.called a).2 := by
  cases a with
  | edit s text =>
      simp only [called]
      rcases e.setText_overlook s text with ⟨err, he, he'⟩ | ⟨c, w, w', he, he', hw⟩
      · rw [he, he']
        exact ⟨e.overlook_overlook, rfl⟩
      · obtain ⟨habsorbed, hwaiting⟩ := absorbed_congr hw
        rw [he, he']
        exact ⟨congrArg overlook habsorbed, hwaiting⟩
  | selectOption kind value =>
      have hselect : e.overlook.controls.select kind value = e.controls.select kind value := rfl
      simp only [called, hselect]
      rcases e.controls.select kind value with ⟨accepted, controls⟩
      rcases accepted with _ | _ | _
      · exact ⟨e.overlook_overlook, rfl⟩
      · exact ⟨e.overlook_overlook, rfl⟩
      · exact ({ e with controls := controls } : Editor).optionCalled_overlook kind
  | optionChanged kind => exact e.optionCalled_overlook kind
  | sendOptionState =>
      refine ⟨?_, rfl⟩
      show e.overlook.reflectOptions.overlook = e.reflectOptions.overlook
      rw [reflectOptions_overlook, overlook_overlook]
  | direct a => exact ⟨e.overlook_act a, rfl⟩
  | _ => exact ⟨e.overlook_overlook, rfl⟩

end Editor

namespace Bridge

/-- The bridge without the changes of the output that wait to be dispatched. -/
def overlook (b : Bridge) : Bridge := { b with editor := b.editor.overlook }

theorem dispatch_overlook (b : Bridge) : b.overlook.dispatch = b.dispatch := by
  rw [dispatch_eq_told, dispatch_eq_told]
  show b.told b.editor.overlook.absorbed b.editor.overlook.waitingNotices = _
  rw [Editor.absorbed_overlook, Editor.waitingNotices_overlook]

theorem poll_overlook (limit : Option Nat) (b : Bridge) : b.overlook.poll limit = b.poll limit := by
  unfold poll
  rw [dispatch_overlook]

theorem overlook_act (a : Action) (b : Bridge) :
    (b.overlook.act a).overlook = (b.act a).overlook := by
  cases a using Action.cases_kind with
  | transport a ha =>
      cases a with
      | signal s => cases s <;> simp [act, receive, overlook]
      | hangUp => simp [act, overlook]
      | stopReading id => simp [act, overlook]
      | _ => cases ha
  | poll limit =>
      show (b.overlook.poll limit).2.overlook = (b.poll limit).2.overlook
      rw [poll_overlook]
  | call a ha =>
      obtain ⟨heditor, hnotices⟩ := b.editor.called_overlook a
      rw [act_of_isCall ha, act_of_isCall ha]
      show ({ b with
          editor := (b.editor.overlook.called a).1.overlook
          lines := tellAll b.session (b.editor.overlook.called a).2 b.lines } : Bridge) = _
      rw [heditor, hnotices]
      rfl

/-- A run comes to the same without the changes of the output that wait, except that they may go on
waiting: they are neither sent nor stored. -/
theorem overlook_run (as : List Action) (b : Bridge) :
    (b.overlook.run as).overlook = (b.run as).overlook := by
  induction as generalizing b with
  | nil => simp [overlook]
  | cons a as ih =>
      calc (b.overlook.run (a :: as)).overlook
          = ((b.overlook.act a).overlook.run as).overlook := (ih (b.overlook.act a)).symm
        _ = ((b.act a).overlook.run as).overlook := by rw [overlook_act]
        _ = (b.run (a :: as)).overlook := ih (b.act a)

end Bridge

/-! ## Notifications -/

namespace Editor

/-- What a notification does to an editor. The equation in a constructor says which part of the
editor is touched at all, and the other premises what becomes of this part. -/
inductive Effect (e : Editor) : ServerNotification → Editor → Prop where
  /-- The language of code gets a classifier. -/
  | highlighting {rows : List (String × TokenClass)} {c : Classifier} {e' : Editor}
      (compiled : Classifier.ofTable e.engine rows = .ok c)
      (rest : e' = { e with
        workspace := { e.workspace with classifiers := e'.workspace.classifiers } })
      (installed : e'.workspace.classifier? Language.codeId = some c)
      (others : ∀ id, id ≠ Language.codeId →
        e'.workspace.classifier? id = e.workspace.classifier? id) :
      Effect e (.highlighting rows) e'
  /-- The output is open: it shows the code, and one change of it waits. -/
  | shown {language implementation : String} {d : Document} {e' : Editor}
      (opened : e.workspace.document .output = some d)
      (rest : e' = { e with
        workspace := { e.workspace with
          documents := e'.workspace.documents
          changes := e.workspace.changes ++ [⟨.output, d.uri, d.language,
            min (d.version + 1) Counter.limit64, implementation⟩] } })
      (output : e'.workspace.document .output = some
        ⟨d.uri, Text.lowerCase language, implementation, min (d.version + 1) Counter.limit64⟩)
      (others : ∀ s, s ≠ .output → e'.workspace.document s = e.workspace.document s) :
      Effect e (.generatedCode language implementation) e'
  /-- The output is not open. -/
  | hidden {language implementation : String} (closed : e.workspace.document .output = none) :
      Effect e (.generatedCode language implementation) e
  /-- The language of code is known: it gets a token of line comments. -/
  | commented {token : String} {l : Language} {e' : Editor}
      (known : e.workspace.languages.get? Language.codeId = some l)
      (rest : e' = { e with
        workspace := { e.workspace with languages := e'.workspace.languages } })
      (replaced : e'.workspace.languages.get? Language.codeId
        = some { l with comments := { l.comments with line := some token } })
      (others : ∀ id, id ≠ Language.codeId →
        e'.workspace.languages.get? id = e.workspace.languages.get? id)
      (ids : e'.workspace.languages.ids = e.workspace.languages.ids) :
      Effect e (.commentKeyword token) e'
  /-- The language of code is not known. -/
  | uncommented {token : String} (unknown : e.workspace.languages.get? Language.codeId = none) :
      Effect e (.commentKeyword token) e
  /-- A message for the log. -/
  | message {shown : Bool} {severity : Severity} {text : String} :
      Effect e (.message shown severity text) e

end Editor

theorem Counter.next_eq_min (limit n : Nat) : next limit n = min (n + 1) limit := by
  unfold next
  split <;> omega

namespace Editor

variable {e e' : Editor}

theorem effect_showCode {language implementation : String}
    (h : e.showCode language implementation = .ok e') :
    Effect e (.generatedCode language implementation) e' := by
  unfold showCode at h
  cases hd : e.workspace.document .output with
  | none =>
      simp only [Workspace.isOpen, hd] at h
      cases h
      exact .hidden hd
  | some d =>
      simp only [Workspace.isOpen, Workspace.setText, Workspace.setLanguage, hd] at h
      have hshown : ∀ (p : Panes (Option Document)) (d : Option Document),
          (p.set .output d).get .output = d := fun p d => by rw [Panes.get_set, if_pos rfl]
      simp only [Workspace.document, hshown, Option.isSome_some, if_true] at h
      cases h
      refine .shown hd ?_ ?_ fun s hs => ?_
      · rw [Counter.next_eq_min]
      · rw [← Counter.next_eq_min]
        exact hshown _ _
      · unfold Workspace.document
        rw [Panes.get_set, Panes.get_set, if_neg hs, if_neg hs]

/-- A notification that is applied has its effect and no other. -/
theorem effect_of_ok {n : ServerNotification} (h : e.applyNotification n = .ok e') :
    Effect e n e' := by
  cases n with
  | highlighting rows =>
      simp only [applyNotification] at h
      cases hc : Classifier.ofTable e.engine rows with
      | error pattern =>
          rw [hc] at h
          cases h
      | ok c =>
          rw [hc] at h
          cases h
          refine .highlighting hc rfl ?_ fun id hid => ?_
          · exact (Dictionary.lookup_insert ..).trans (if_pos rfl)
          · exact (Dictionary.lookup_insert ..).trans (if_neg hid)
  | generatedCode language implementation =>
      simp only [applyNotification] at h
      cases hs : e.showCode language implementation with
      | error err =>
          rw [hs] at h
          cases h
      | ok shown =>
          rw [hs] at h
          cases h
          exact effect_showCode hs
  | commentKeyword token =>
      cases h
      cases hl : e.workspace.languages.get? Language.codeId with
      | none =>
          have hsame : (e.workspace.languages.setLineComment Language.codeId token).2
              = e.workspace.languages :=
            congrArg LanguageRegistry.mk (Dictionary.modify_of_lookup _ hl)
          rw [Workspace.withLanguages, hsame]
          exact .uncommented hl
      | some l =>
          refine .commented hl rfl ?_ (fun id hid => ?_) (Dictionary.keys_modify ..)
          · refine (Dictionary.lookup_modify ..).trans ?_
            rw [if_pos rfl]
            exact congrArg (Option.map (Language.withLineComment token)) hl
          · exact (Dictionary.lookup_modify ..).trans (if_neg hid)
  | message shown severity text =>
      cases h
      exact .message

/-- An effect is beside the code, the schema, the store and the controls, and the changes that it
makes are of the output. -/
theorem Effect.keeps {n : ServerNotification} (h : Effect e n e') :
    (∀ s, s ≠ .output → e'.workspace.document s = e.workspace.document s)
      ∧ e'.content = e.content ∧ e'.controls = e.controls
      ∧ (e.OutputOnly → e'.OutputOnly) := by
  cases h with
  | highlighting compiled rest =>
      rw [rest]
      exact ⟨fun _ _ => rfl, rfl, rfl, id⟩
  | @shown language implementation d _ opened rest output others =>
      refine ⟨others, by rw [rest], by rw [rest], fun only c hc => ?_⟩
      rw [rest] at hc
      rcases List.mem_append.1 hc with hc | hc
      · exact only c hc
      · rw [List.mem_singleton.1 hc]
  | commented known rest =>
      rw [rest]
      exact ⟨fun _ _ => rfl, rfl, rfl, id⟩
  | _ => exact ⟨fun _ _ => rfl, rfl, rfl, id⟩

end Editor

/-! ## Messages -/

namespace Bridge

/-- What a message of session `s` makes of a bridge, from whose events it has been taken, and what
is reported of it. -/
inductive Outcome (s : Session) (text : String) (b : Bridge) :
    Option BridgeEvent → Bridge → Prop where
  /-- A request gets one response, or none if the reader has gone away. -/
  | request {r : Rpc.Request} {lines : Rpc.Lines}
      (read : Message.read text = .ok (.request r.id r.method r.params))
      (response : lines = b.lines
        ∨ ∃ f, r.IsAnsweredBy f ∧ Queued s.client.connection.line [f] b.lines lines) :
      Outcome s text b none { b with lines := lines }
  | response {id : Json} {result : Option Json} {error : Option Rpc.ResponseError}
      (read : Message.read text = .ok (.response id result error)) : Outcome s text b none b
  | unknown {method : String} {params : Json}
      (read : Message.read text = .ok (.notification method params))
      (decoded : ServerNotification.decode method params = .ok none) : Outcome s text b none b
  | notification {method : String} {params : Json} {n : ServerNotification} {e : Editor}
      (read : Message.read text = .ok (.notification method params))
      (decoded : ServerNotification.decode method params = .ok (some n))
      (effect : Editor.Effect b.editor n e) :
      Outcome s text b (some (.notification n)) { b with editor := e, log := b.log ++ n.logged }

/-- A bridge with the events that wait at another one. -/
def awaiting (b other : Bridge) : Bridge :=
  { b with
    backlog := other.backlog
    inbox := { b.inbox with events := other.inbox.events } }

/-- A message of session `s` has taken a bridge from `before`, with the changes dispatched and the
message still waiting, to `after`, and has not touched more than its target. -/
structure Confined (s : Session) (text : String) (event : Option BridgeEvent)
    (before after : Bridge) : Prop where
  outcome : Outcome s text (before.awaiting after) event after
  documents : ∀ t, t ≠ .output →
    after.editor.workspace.document t = before.editor.workspace.document t
  content : after.editor.content = before.editor.content
  controls : after.editor.controls = before.editor.controls
  session : after.session = before.session
  /-- Only requests queue a frame. -/
  silent : (∀ id method params, Message.read text ≠ .ok (.request id method params)) →
    after.lines = before.lines
  /-- No change is left to wait except those of the output. -/
  changes : ∀ c ∈ after.editor.workspace.changes, c.surface = .output
  /-- Nothing that happens later would be different without them. -/
  later : ∀ as : List Action,
    (run as { after with
      editor := { after.editor with
        workspace := { after.editor.workspace with changes := [] } } }).overlook
      = (after.run as).overlook

variable {limit : Option Nat} {b taken : Bridge} {s : Session} {text : String}
variable {event : Option BridgeEvent}

theorem lines_replied (c : Rpc.Connection) (lines : Rpc.Lines)
    (other : ∀ id method params, Message.read text ≠ .ok (.request id method params)) :
    lines.replied c text = lines := by
  rw [Rpc.Lines.replied, Rpc.reply?_eq_none other]

/-- A message of the session that is handled without an error has the outcome of its kind. -/
theorem outcome_of_handled (active : b.session = some s)
    (ok : (b.handled limit (.message s.id text)).1 = .ok event) :
    Outcome s text b event (b.handled limit (.message s.id text)).2 := by
  rw [handled_message_eq limit active] at ok ⊢
  dsimp only at ok ⊢
  unfold Editor.heed at ok ⊢
  cases hm : Message.read text with
  | error err =>
      rw [hm] at ok
      cases ok
  | ok m =>
      rw [hm] at ok
      cases m with
      | request id method params =>
          cases ok
          have hreply : Rpc.reply? text = some (Frame.answer id method params) :=
            Rpc.reply?_of_request hm
          have hanswered := Rpc.Request.isAnsweredBy_reply ⟨id, method, params⟩
          simp only [List.append_nil]
          refine .request (r := ⟨id, method, params⟩) hm ?_
          unfold Rpc.Lines.replied
          rw [hreply]
          dsimp only
          cases hs : b.lines.send s.client.connection (Frame.answer id method params) with
          | none => exact Or.inl rfl
          | some lines => exact Or.inr ⟨_, hanswered, Rpc.Lines.queued_of_send hs⟩
      | response id result error =>
          cases ok
          rw [lines_replied _ _ (by simp [hm])]
          simp only [List.append_nil]
          exact .response hm
      | notification method params =>
          rw [lines_replied _ _ (by simp [hm])]
          dsimp only at ok ⊢
          cases hd : ServerNotification.decode method params with
          | error err =>
              rw [hd] at ok
              cases ok
          | ok found =>
              rw [hd] at ok
              cases found with
              | none =>
                  cases ok
                  simp only [List.append_nil]
                  exact .unknown hm hd
              | some n =>
                  dsimp only at ok ⊢
                  cases ha : b.editor.applyNotification n with
                  | error err =>
                      rw [ha] at ok
                      cases ok
                  | ok e =>
                      rw [ha] at ok
                      cases ok
                      exact .notification hm hd (Editor.effect_of_ok ha)

/-- No outcome is about the code, the schema, the store, the controls or the session, and only
requests queue a frame. -/
theorem Outcome.keeps {after : Bridge} (h : Outcome s text b event after) :
    (∀ t, t ≠ .output → after.editor.workspace.document t = b.editor.workspace.document t)
      ∧ after.editor.content = b.editor.content ∧ after.editor.controls = b.editor.controls
      ∧ after.session = b.session
      ∧ ((∀ id method params, Message.read text ≠ .ok (.request id method params)) →
        after.lines = b.lines)
      ∧ (b.editor.OutputOnly → after.editor.OutputOnly) := by
  cases h with
  | request read =>
      exact ⟨fun _ _ => rfl, rfl, rfl, rfl, fun other => absurd read (other _ _ _), id⟩
  | response read => exact ⟨fun _ _ => rfl, rfl, rfl, rfl, fun _ => rfl, id⟩
  | unknown read decoded => exact ⟨fun _ _ => rfl, rfl, rfl, rfl, fun _ => rfl, id⟩
  | notification read decoded effect =>
      obtain ⟨hdocuments, hcontent, hcontrols, hchanges⟩ := effect.keeps
      exact ⟨hdocuments, hcontent, hcontrols, rfl, fun _ => rfl, hchanges⟩

/-- If only changes of the output wait, a run comes to the same without any change that waits. -/
theorem overlook_run_settled (only : b.editor.OutputOnly) (as : List Action) :
    (run as { b with
      editor := { b.editor with
        workspace := { b.editor.workspace with changes := [] } } }).overlook
      = (b.run as).overlook := by
  have hnone : (b.editor.workspace.changes.filter fun c => c.surface ≠ .output) = [] :=
    List.filter_eq_nil_iff.2 fun c hc => by simp [only c hc]
  have hsettled : b.overlook = { b with
      editor := { b.editor with
        workspace := { b.editor.workspace with changes := [] } } } := by
    rw [overlook, Editor.overlook, hnone]
  rw [← hsettled]
  exact overlook_run as b

/-- When a poll handles a message of the session without an error, it first dispatches the changes
that wait. All that the message does to the bridge after this is confined to its target. -/
theorem confined_of_poll (active : b.session = some s)
    (next : b.dispatch.nextEvent = some (.message s.id text, taken))
    (ok : (b.poll limit).1 = .ok event) :
    Confined s text event b.dispatch (b.poll limit).2
      ∧ Takes (.message s.id text) b (b.poll limit).2 := by
  rw [poll_of_next next] at ok ⊢
  have hactive : taken.session = some s := (nextEvent_keeps next).2.2.2.trans active
  have houtcome := outcome_of_handled hactive ok
  generalize (taken.handled limit (.message s.id text)).2 = after at houtcome ⊢
  have hwaits : after.backlog = taken.backlog ∧ after.inbox = taken.inbox := by
    cases houtcome <;> exact ⟨rfl, rfl⟩
  have htaken : taken = b.dispatch.awaiting after := by
    rw [awaiting, hwaits.1, hwaits.2]
    exact (nextEvent_eq_some next).2.1
  have hnone : b.dispatch.editor.OutputOnly := by
    intro c hc
    rw [editor_dispatch, Editor.absorbed_workspace] at hc
    cases hc
  have htakes : Takes (.message s.id text) b after := by
    cases takes_of_next next with
    | putOff backlog inbox =>
        exact .putOff (by rw [hwaits.1]; exact backlog) (hwaits.2.trans inbox)
    | received backlog inbox =>
        exact .received ⟨backlog.1, hwaits.1.trans backlog.2⟩ (by rw [hwaits.2]; exact inbox)
  rw [htaken] at houtcome
  obtain ⟨hdocuments, hcontent, hcontrols, hsession, hsilent, hchanges⟩ := houtcome.keeps
  have honly : after.editor.OutputOnly := hchanges hnone
  exact ⟨⟨houtcome, hdocuments, hcontent, hcontrols, hsession, hsilent, honly,
    overlook_run_settled honly⟩, htakes⟩

/-- Generated code, while the output is open in the language of schemas: the change that waits
afterwards is in this language, but it is not stored as the schema when it is dispatched. -/
theorem confined_of_poll_generated :
    ∃ (b taken : Bridge) (s : Session) (text : String) (event : Option BridgeEvent),
      (b.session = some s ∧ b.dispatch.nextEvent = some (.message s.id text, taken)
        ∧ (b.poll none).1 = .ok event)
        ∧ (b.poll none).2.editor.workspace.document .output
          = some ⟨"file:///out", Text.lowerCase "Java", "c: 3", 2⟩
        ∧ (b.poll none).2.editor.workspace.changes
          = [⟨.output, "file:///out", Language.schemaId, 2, "c: 3"⟩]
        ∧ (b.poll none).2.dispatch.editor.content.get? .schema = none := by
  generalize hparams : Json.object [("implementation", .text "c: 3"), ("language", .text "Java")]
    = params
  generalize htext : (Frame.notification "ov/generatedCodeUpdated" params).text = text
  generalize hb : (ofEditor .sample "page").run (Action.welcome 1
    ++ [.direct (.openDocument .output "file:///out" Language.schemaId ""),
      .signal (.message 1 text)]) = b
  have hread : Message.read text = .ok (.notification "ov/generatedCodeUpdated" params) := by
    rw [← htext, ← hparams]
    cbv
  have hdecode : ServerNotification.decode "ov/generatedCodeUpdated" params
      = .ok (some (.generatedCode "Java" "c: 3")) := by
    rw [← hparams]
    cbv
  have hsession : b.session.map Session.id = some 1 := by
    rw [← hb]
    cbv
  have hbacklog : b.dispatch.backlog = [] := by
    rw [← hb]
    cbv
  have hinbox : b.dispatch.inbox.events = [.message 1 text] := by
    rw [← hb]
    cbv
  have hopened : b.dispatch.editor.workspace.document .output
      = some ⟨"file:///out", Language.schemaId, "", 1⟩ := by
    rw [← hb]
    cbv
  have hstored : b.dispatch.editor.content.get? .schema = none := by
    rw [← hb]
    cbv
  obtain ⟨s, hs, hid⟩ := Option.map_eq_some_iff.1 hsession
  obtain ⟨taken, hnext⟩ : ∃ taken, b.dispatch.nextEvent = some (.message s.id text, taken) :=
    exists_nextEvent (by simp [nextEvent, hbacklog, hinbox, hid])
  have hactive : taken.session = some s := (nextEvent_keeps hnext).2.2.2.trans hs
  have hok : (b.poll none).1 = .ok (some (.notification (.generatedCode "Java" "c: 3"))) := by
    obtain ⟨e', hshow, -⟩ := Editor.exists_showCode "Java" "c: 3" taken.editor
    rw [poll_of_next hnext, handled_message_eq none hactive]
    simp only [Editor.heed, hread, hdecode, Editor.applyNotification, hshow]
  obtain ⟨hconfined, -⟩ := confined_of_poll hs hnext hok
  have hshown : (b.poll none).2.editor.workspace.document .output
        = some ⟨"file:///out", Text.lowerCase "Java", "c: 3", 2⟩
      ∧ (b.poll none).2.editor.workspace.changes
        = [⟨.output, "file:///out", Language.schemaId, 2, "c: 3"⟩] := by
    have houtcome := hconfined.outcome
    generalize hbefore : b.dispatch.awaiting (b.poll none).2 = before at houtcome
    generalize (b.poll none).2 = after at houtcome ⊢
    have heditor : before.editor = b.dispatch.editor := by
      rw [← hbefore]
      rfl
    cases houtcome with
    | notification read decoded effect =>
        rw [heditor] at effect
        cases effect with
        | hidden closed =>
            rw [hopened] at closed
            cases closed
        | shown opened rest output others =>
            rw [hopened] at opened
            cases opened
            refine ⟨output, ?_⟩
            rw [rest]
            show b.dispatch.editor.workspace.changes ++ _ = _
            rw [editor_dispatch, Editor.absorbed_workspace]
            rfl
  refine ⟨b, taken, s, text, _, ⟨hs, hnext, hok⟩, hshown.1, hshown.2, ?_⟩
  rw [dispatch_of_outputOnly hconfined.changes]
  exact (congrArg (fun c => c.get? .schema) hconfined.content).trans hstored

end Bridge

end SurfaceBridge
