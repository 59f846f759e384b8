import SurfaceBridge.Proofs.Bridge.Poll

set_option autoImplicit false

/-! # Runs of a bridge

An `Action` is one thing that can happen to a bridge: something that the transport does, a call
of the host, or a change that the host makes to the editor behind the bridge's back. A run is a
list of actions. The actions of the transport are always possible, so the statements about runs
hold for every transport, and a writer can go away between any two frames (see `Rpc.Line`).
-/

namespace SurfaceBridge

/-- What the transport reports. A connection that opens has room for so many frames. -/
inductive Signal where
  | opened (id : Nat) (room : Option Nat)
  | message (id : Nat) (text : String)
  | closed (id : Nat)
deriving DecidableEq

/-- The id of the connection that a signal opens. -/
def Signal.openedId? : Signal → Option Nat
  | .opened id _ => some id
  | _ => none

/-- What the host can do to the editor without the bridge. What has no name of its own here, such
as loading a content store, is a replacement of the editor; only the engine stays. -/
inductive EditorAction where
  | setText (s : Surface) (text : String)
  | openDocument (s : Surface) (uri language text : String)
  | close (s : Surface)
  | setLanguage (s : Surface) (language : String)
  | takeChanges
  | setClassifier (language : String) (c : Classifier)
  | setLanguages (r : LanguageRegistry)
  | store (k : ContentKey) (value : String)
  | remove (k : ContentKey)
  | select (kind : OptionKind) (value : String)
  | replace (e : Editor)

/-- One thing that can happen to a bridge. -/
inductive Action where
  | signal (s : Signal)
  | hangUp
  | stopReading (id : Nat)
  | poll (limit : Option Nat)
  | edit (s : Surface) (text : String)
  | selectOption (kind : OptionKind) (value : String)
  | optionChanged (kind : OptionKind)
  | sendSchemaState
  | sendOptionState
  | direct (a : EditorAction)

/-- The ids of the connections that open in a run. -/
def Action.openedIds (as : List Action) : List Nat :=
  as.filterMap fun
    | .signal s => s.openedId?
    | _ => none

namespace Workspace

/-- The workspace after a text of it has been replaced, if the surface is open. -/
def typed (s : Surface) (text : String) (w : Workspace) : Workspace :=
  match w.setText s text with
  | .error _ => w
  | .ok (_, w) => w

/-- The workspace after a language of it has been replaced, if the surface is open. -/
def relabelled (s : Surface) (language : String) (w : Workspace) : Workspace :=
  match w.setLanguage s language with
  | .error _ => w
  | .ok w => w

end Workspace

/-- Whether an action is a call of the host that is no poll, or a change of the editor. -/
def Action.isCall : Action → Bool
  | .signal _ => false
  | .hangUp => false
  | .stopReading _ => false
  | .poll _ => false
  | _ => true

/-- Whether an action is of the transport. -/
def Action.isTransport : Action → Bool
  | .signal _ => true
  | .hangUp => true
  | .stopReading _ => true
  | _ => false

/-- An action is one of the transport, a poll, or a call. -/
theorem Action.cases_kind {motive : Action → Prop}
    (transport : ∀ a : Action, a.isTransport = true → motive a)
    (poll : ∀ limit, motive (.poll limit)) (call : ∀ a : Action, a.isCall = true → motive a)
    (a : Action) : motive a := by
  cases a with
  | signal s => exact transport _ rfl
  | hangUp => exact transport _ rfl
  | stopReading id => exact transport _ rfl
  | poll limit => exact poll limit
  | _ => exact call _ rfl

/-- The editor after an action of the host. -/
def Editor.act (a : EditorAction) (e : Editor) : Editor :=
  match a with
  | .setText s text => { e with workspace := e.workspace.typed s text }
  | .openDocument s uri language text =>
    { e with workspace := e.workspace.openDocument s uri language text }
  | .close s => { e with workspace := (e.workspace.close s).2 }
  | .setLanguage s language => { e with workspace := e.workspace.relabelled s language }
  | .takeChanges => { e with workspace := e.workspace.takeChanges.2 }
  | .setClassifier language c => { e with workspace := e.workspace.setClassifier language c }
  | .setLanguages r => { e with workspace := e.workspace.withLanguages fun _ => r }
  | .store k value => e.store k value
  | .remove k => { e with content := (e.content.remove k).2 }
  | .select kind value => { e with controls := (e.controls.select kind value).2 }
  | .replace d => { d with engine := e.engine }

/-- What an option that has changed does to the editor, and what is sent for it. -/
def Editor.optionCalled (kind : OptionKind) (e : Editor) : Editor × List ClientNotification :=
  match e.controls.selected? kind with
  | none => (e, [])
  | some value =>
    (e.store kind.contentKey value, (e.store kind.contentKey value).optionNotices kind value)

/-- What a call of the host does to the editor, and what is sent for it. -/
def Editor.called (a : Action) (e : Editor) : Editor × List ClientNotification :=
  match a with
  | .edit s text =>
    match e.workspace.setText s text with
    | .error _ => (e, [])
    | .ok (_, w) =>
      (({ e with workspace := w }).absorbed, ({ e with workspace := w }).waitingNotices)
  | .selectOption kind value =>
    match e.controls.select kind value with
    | (some true, controls) => ({ e with controls := controls }).optionCalled kind
    | _ => (e, [])
  | .optionChanged kind => e.optionCalled kind
  | .sendSchemaState => (e, e.schemaStateNotices)
  | .sendOptionState => (e.reflectOptions, e.optionStateNotices)
  | .direct a => (e.act a, [])
  | _ => (e, [])

namespace Bridge

/-- The transport reports something. Each connection that opens gets a line of its own. -/
def receive (s : Signal) (b : Bridge) : Bridge :=
  match s with
  | .opened id room =>
    { b with
      inbox := b.inbox.push (.opened (b.lines.openLine id room).1)
      lines := (b.lines.openLine id room).2 }
  | .message id text => { b with inbox := b.inbox.push (.message id text) }
  | .closed id => { b with inbox := b.inbox.push (.closed id) }

/-- The bridge after an action. -/
def act (a : Action) (b : Bridge) : Bridge :=
  match a with
  | .signal s => b.receive s
  | .hangUp => { b with inbox := b.inbox.hangUp }
  | .stopReading id => { b with lines := b.lines.stopReading id }
  | .poll limit => (b.poll limit).2
  | .edit s text =>
    match b.edit s text with
    | .error _ => b
    | .ok (_, b) => b
  | .selectOption kind value => (b.selectOption kind value).2
  | .optionChanged kind => b.optionChanged kind
  | .sendSchemaState => b.sendSchemaState
  | .sendOptionState => b.sendOptionState
  | .direct a => { b with editor := b.editor.act a }

/-- The bridge after a run. -/
def run (as : List Action) (b : Bridge) : Bridge := as.foldl (fun b a => b.act a) b

/-- What the poll of an action returns, if it is one and returns an event. -/
def eventOf (a : Action) (b : Bridge) : Option BridgeEvent :=
  match a with
  | .poll limit => (b.poll limit).1.toOption.join
  | _ => none

/-- What the polls of a run return, the oldest first. -/
def eventsOf : List Action → Bridge → List BridgeEvent
  | [], _ => []
  | a :: as, b => (b.eventOf a).toList ++ eventsOf as (b.act a)

@[simp] theorem run_nil (b : Bridge) : b.run [] = b := rfl

@[simp] theorem run_cons (a : Action) (as : List Action) (b : Bridge) :
    b.run (a :: as) = (b.act a).run as := rfl

/-- What every action keeps, every run keeps. -/
theorem run_induction {P : Bridge → Prop} (step : ∀ a b, P b → P (b.act a)) (as : List Action)
    {b : Bridge} (h : P b) : P (b.run as) := by
  induction as generalizing b with
  | nil => exact h
  | cons a as ih => exact ih (step a b h)

/-- What the transport does changes neither the editor nor the session, and queues nothing. -/
theorem act_of_isTransport {a : Action} (h : a.isTransport = true) (b : Bridge) :
    (b.act a).editor = b.editor ∧ (b.act a).session = b.session
      ∧ ∀ l, (b.act a).lines.framesAt l = b.lines.framesAt l := by
  cases a with
  | signal s =>
      cases s with
      | opened id room => exact ⟨rfl, rfl, fun l => Rpc.Lines.framesAt_openLine l id room b.lines⟩
      | message id text => exact ⟨rfl, rfl, fun _ => rfl⟩
      | closed id => exact ⟨rfl, rfl, fun _ => rfl⟩
  | hangUp => exact ⟨rfl, rfl, fun _ => rfl⟩
  | stopReading id => exact ⟨rfl, rfl, fun l => Rpc.Lines.framesAt_stopReading l id b.lines⟩
  | _ => cases h

/-! ## Calls of the host -/

/-- A bridge of which the editor has changed and on whose session has been told something. -/
def told (b : Bridge) (e : Editor) (ns : List ClientNotification) : Bridge :=
  { b with editor := e, lines := tellAll b.session ns b.lines }

theorem dispatch_eq_told (b : Bridge) :
    b.dispatch = b.told b.editor.absorbed b.editor.waitingNotices := dispatch_eq b

theorem editor_dispatch (b : Bridge) : b.dispatch.editor = b.editor.absorbed := by
  rw [dispatch_eq_told]
  rfl

theorem optionChanged_eq (b : Bridge) (kind : OptionKind) :
    b.optionChanged kind
      = b.told (b.editor.optionCalled kind).1 (b.editor.optionCalled kind).2 := by
  unfold optionChanged Editor.optionCalled
  cases b.editor.controls.selected? kind with
  | none => rfl
  | some value =>
      dsimp only
      rw [Editor.sendOption_eq]
      rfl

/-- A call of the host changes the editor and tells the session something, and that is all. -/
theorem act_of_isCall {a : Action} (h : a.isCall = true) (b : Bridge) :
    b.act a = b.told (b.editor.called a).1 (b.editor.called a).2 := by
  cases a with
  | signal s => cases h
  | hangUp => cases h
  | stopReading id => cases h
  | poll limit => cases h
  | edit s text =>
      simp only [act, edit, Editor.called]
      cases b.editor.workspace.setText s text with
      | error err => rfl
      | ok p =>
          dsimp only
          rw [dispatch_eq_told]
          rfl
  | selectOption kind value =>
      simp only [act, selectOption, Editor.called]
      -- there may be no such control, or the control does not offer the value
      rcases b.editor.controls.select kind value with ⟨accepted, controls⟩
      rcases accepted with _ | _ | _
      · rfl
      · rfl
      · dsimp only
        rw [optionChanged_eq]
        rfl
  | optionChanged kind => exact optionChanged_eq b kind
  | sendSchemaState => exact sendSchemaState_eq b
  | sendOptionState => exact sendOptionState_eq b
  | direct a => rfl

end Bridge

/-! ## A page to try things on -/

/-- A page with code, a schema and a choice of cultures. -/
def Editor.sample : Editor where
  workspace := (Workspace.empty.openDocument .primary "file:///main.ov" "ov" "code").openDocument
    .schema "file:///main.yaml" "yaml" "a: 1"
  content := .empty
  controls := .ofValues ["de", "en"] []

/-- A connection opens, its server answers the request of the handshake, and a poll reads both. -/
def Action.welcome (id : Nat) : List Action :=
  [.signal (.opened id none), .signal (.message id "\x7b\"id\":1,\"result\":null\x7d"), .poll none]

end SurfaceBridge
