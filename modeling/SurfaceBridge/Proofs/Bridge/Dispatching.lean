import SurfaceBridge.Proofs.Bridge.Sending

set_option autoImplicit false

/-! # Every change is dispatched once

Changes are made at three places and wait in one queue, which is emptied by polls and edits. The
books of it are kept by `Took`: what waited, together with what has been made, is what has been
dispatched, together with what waits now, and what has been dispatched has been written to the
content store. Such entries add up, so the books of a run are balanced if those of each action are.

What is sent for a change depends on the moment at which its turn comes. `dispatchedTo n` is the
bridge in the middle of a dispatch, when `n` changes have had their turn. What an action sends beside
its dispatch is in `Sends`, and `exists_sent_act` puts the two together.
-/

namespace SurfaceBridge

open Rpc (Connection Frame Lines)

/-! ## Writes -/

/-- What the content store gets of a change. -/
def Change.write? (c : Change) : Option (ContentKey × String) :=
  if c.surface = .output then none
  else if c.language = Language.schemaId then some (.schema, c.text)
  else if c.language = Language.codeId then some (.code, c.text)
  else none

/-- The calls that a subscriber has got for the two texts, the oldest first. -/
def ContentStore.textWrites (name : String) (c : ContentStore) : List (ContentKey × String) :=
  c.calls.filterMap fun call =>
    if call.subscriber = name ∧ (call.key = .schema ∨ call.key = .code) then
      some (call.key, call.value)
    else none

/-- Somebody who has subscribed once is called once for each write. -/
theorem filterMap_subscriber {α : Type} (name : String) (names : List String) (w : α) :
    (names.filterMap fun s => if s = name then some w else none)
      = List.replicate (names.count name) w := by
  induction names with
  | nil => rfl
  | cons s names ih =>
      by_cases hs : s = name
      · subst hs
        simp [ih, List.replicate_succ]
      · simp [hs, ih]

namespace ContentStore

variable {name : String} {c : ContentStore} {key : ContentKey}

theorem textWrites_set (once : c.subscribers.count name = 1)
    (text : key = .schema ∨ key = .code) (value : String) :
    (c.set key value).textWrites name = c.textWrites name ++ [(key, value)] := by
  have hcalls : ((c.subscribers.map fun s => (⟨s, key, value⟩ : ContentCall)).filterMap fun call =>
      if call.subscriber = name ∧ (call.key = .schema ∨ call.key = .code) then
        some (call.key, call.value)
      else none) = [(key, value)] := by
    rw [List.filterMap_map]
    simpa [Function.comp_def, text, once] using filterMap_subscriber name c.subscribers (key, value)
  rw [textWrites, set, List.filterMap_append, hcalls]
  rfl

theorem textWrites_set_of_ne (other : ¬(key = .schema ∨ key = .code)) (value : String) :
    (c.set key value).textWrites name = c.textWrites name := by
  rw [textWrites, set, List.filterMap_append]
  simp [other, textWrites]

end ContentStore

namespace Editor

/-! ## The books -/

/-- Some changes have been made since `e` and some have been dispatched. -/
structure Took (name : String) (e e' : Editor) (made dispatched : List Change) : Prop where
  queue : e.workspace.changes ++ made = dispatched ++ e'.workspace.changes
  subscribers : e'.content.subscribers = e.content.subscribers
  writes : e'.content.textWrites name
    = e.content.textWrites name ++ dispatched.filterMap Change.write?

namespace Took

variable {name : String} {e e' e'' : Editor} {made made' dispatched dispatched' : List Change}

/-- What touches neither the queue nor the store. -/
theorem of_eq (changes : e'.workspace.changes = e.workspace.changes)
    (content : e'.content = e.content) : Took name e e' [] [] := by
  refine ⟨?_, by rw [content], ?_⟩
  · rw [changes, List.append_nil, List.nil_append]
  · rw [content]
    exact (List.append_nil _).symm

theorem refl (e : Editor) : Took name e e [] [] := of_eq rfl rfl

/-- The books of two actions make those of both. -/
theorem trans (h : Took name e e' made dispatched) (k : Took name e' e'' made' dispatched') :
    Took name e e'' (made ++ made') (dispatched ++ dispatched') where
  queue := by
    calc e.workspace.changes ++ (made ++ made')
        = dispatched ++ (e'.workspace.changes ++ made') := by
          rw [← List.append_assoc, h.queue, List.append_assoc]
      _ = dispatched ++ dispatched' ++ e''.workspace.changes := by
          rw [k.queue, List.append_assoc]
  subscribers := k.subscribers.trans h.subscribers
  writes := by rw [k.writes, h.writes, List.filterMap_append, List.append_assoc]

end Took

variable {name : String} {e e' : Editor}

theorem took_setText {s : Surface} {text : String} {c : Change} {w : Workspace}
    (h : e.workspace.setText s text = .ok (c, w)) :
    Took name e { e with workspace := w } [c] [] := by
  obtain ⟨-, -, -, -, -, -, hchanges⟩ := Workspace.setText_eq_ok h
  exact ⟨by rw [hchanges]; rfl, rfl, (List.append_nil _).symm⟩

theorem took_store {key : ContentKey} (other : ¬(key = .schema ∨ key = .code)) (value : String) :
    Took name e (e.store key value) [] [] := by
  refine ⟨List.append_nil _, rfl, ?_⟩
  rw [List.filterMap_nil, List.append_nil]
  exact ContentStore.textWrites_set_of_ne other value

/-- A change whose turn has come is written. -/
theorem writes_absorb (once : e.content.subscribers.count name = 1) (c : Change) :
    (e.absorb c).content.subscribers = e.content.subscribers
      ∧ (e.absorb c).content.textWrites name
        = e.content.textWrites name ++ c.write?.toList := by
  unfold absorb Change.write?
  split
  · exact ⟨rfl, (List.append_nil _).symm⟩
  · split
    · exact ⟨rfl, ContentStore.textWrites_set once (Or.inl rfl) c.text⟩
    · split
      · exact ⟨rfl, ContentStore.textWrites_set once (Or.inr rfl) c.text⟩
      · exact ⟨rfl, (List.append_nil _).symm⟩

theorem writes_foldl_absorb (cs : List Change) (once : e.content.subscribers.count name = 1) :
    (cs.foldl absorb e).content.subscribers = e.content.subscribers
      ∧ (cs.foldl absorb e).content.textWrites name
        = e.content.textWrites name ++ cs.filterMap Change.write? := by
  induction cs generalizing e with
  | nil => exact ⟨rfl, (List.append_nil _).symm⟩
  | cons c cs ih =>
      obtain ⟨hsubscribers, hwrites⟩ := writes_absorb once c
      obtain ⟨ihsubscribers, ihwrites⟩ := ih (e := e.absorb c) (by rw [hsubscribers]; exact once)
      refine ⟨ihsubscribers.trans hsubscribers, ?_⟩
      rw [List.foldl_cons, ihwrites, hwrites, List.append_assoc, List.filterMap_cons]
      cases c.write? <;> rfl

/-- A dispatch empties the queue. -/
theorem took_absorbed (once : e.content.subscribers.count name = 1) :
    Took name e e.absorbed [] e.workspace.changes := by
  obtain ⟨hsubscribers, hwrites⟩ :=
    writes_foldl_absorb (e := e.settled) e.workspace.changes once
  refine ⟨?_, hsubscribers, hwrites⟩
  rw [absorbed_workspace]
  rfl

end Editor

/-! ## What is made and dispatched in a run -/

/-- The change that replacing a text makes, if the surface is open. -/
def Workspace.change? (s : Surface) (text : String) (w : Workspace) : Option Change :=
  (w.setText s text).toOption.map Prod.fst

/-- The change that a notification makes: generated code replaces the text of the output. -/
def ServerNotification.change? (w : Workspace) : ServerNotification → Option Change
  | .generatedCode _ implementation => w.change? .output implementation
  | _ => none

/-- The change behind an event. -/
def BridgeEvent.change? (w : Workspace) : BridgeEvent → Option Change
  | .notification n => n.change? w
  | _ => none

/-- Whether an action of the host leaves the queue to the bridge, and in the store the two texts. -/
def EditorAction.isRegular : EditorAction → Bool
  | .takeChanges => false
  | .replace _ => false
  | .store key _ => key = .culture ∨ key = .language
  | _ => true

/-- Whether an action is of the bridge or the transport, or a regular one of the editor. -/
def Action.isRegular : Action → Bool
  | .direct a => a.isRegular
  | _ => true

namespace Editor

variable {name : String} {e e' : Editor}

theorem took_applyNotification {n : ServerNotification} (h : e.applyNotification n = .ok e') :
    Took name e e' (n.change? e.workspace).toList [] := by
  cases applied_of_ok h with
  | @shown language implementation change typed relabelled setText setLanguage =>
      have hmade : (ServerNotification.generatedCode language implementation).change? e.workspace
          = some change := by
        simp [ServerNotification.change?, Workspace.change?, setText, Except.toOption]
      rw [hmade]
      exact (took_setText setText).trans (.of_eq (Workspace.setLanguage_eq_ok setLanguage).2 rfl)
  | @hidden language implementation closed =>
      have hmade : (ServerNotification.generatedCode language implementation).change? e.workspace
          = none := by
        simp [ServerNotification.change?, Workspace.change?, Workspace.setText, closed,
          Except.toOption]
      rw [hmade]
      exact .refl e
  | _ => exact .of_eq rfl rfl

/-- The change that a call of the host makes. -/
def change? (a : Action) (e : Editor) : Option Change :=
  match a with
  | .edit s text => e.workspace.change? s text
  | .direct (.setText s text) => e.workspace.change? s text
  | _ => none

/-- An action of the host that is not the replacement of a text makes no change. -/
theorem took_act {a : EditorAction} (regular : a.isRegular = true)
    (notText : ∀ s text, a ≠ .setText s text) : Took name e (e.act a) [] [] := by
  cases a with
  | setText s text => exact absurd rfl (notText s text)
  | openDocument s uri language text => exact .of_eq rfl rfl
  | close s => exact .of_eq rfl rfl
  | setLanguage s language =>
      refine .of_eq ?_ rfl
      show (e.workspace.relabelled s language).changes = _
      unfold Workspace.relabelled Workspace.setLanguage
      cases e.workspace.document s <;> rfl
  | setClassifier language c => exact .of_eq rfl rfl
  | setLanguages r => exact .of_eq rfl rfl
  | store key value =>
      refine took_store ?_ value
      have hkey : key = .culture ∨ key = .language := of_decide_eq_true regular
      rcases hkey with rfl | rfl <;> simp
  | remove key => exact ⟨List.append_nil _, rfl, (List.append_nil _).symm⟩
  | select kind value => exact .of_eq rfl rfl
  | _ => cases regular

/-- Reflecting what is stored touches neither the queue nor the store. -/
theorem took_reflectOptions (e : Editor) : Took name e e.reflectOptions [] [] := by
  refine .of_eq (by rw [(Reported.reflectOptions_eq e).1]) ?_
  show ((e.reflectOption .culture).reflectOption .language).content = _
  rw [reflectOption_content, reflectOption_content]

theorem took_optionCalled (kind : OptionKind) : Took name e (e.optionCalled kind).1 [] [] := by
  unfold optionCalled
  cases e.controls.selected? kind with
  | none => exact .refl e
  | some value => exact took_store (by cases kind <;> decide) value

end Editor

namespace Bridge

variable {name : String} {limit : Option Nat} {b after : Bridge} {e : Event}
variable {result : Except BridgeError (Option BridgeEvent)}

/-- The change that an action makes. A poll may apply a notification, after it has dispatched. -/
def changeOf (a : Action) (b : Bridge) : Option Change :=
  match a with
  | .poll _ => (b.eventOf a).bind (BridgeEvent.change? b.dispatch.editor.workspace)
  | _ => b.editor.change? a

/-- The changes that are made in a run, the oldest first. -/
def changesIn : List Action → Bridge → List Change
  | [], _ => []
  | a :: as, b => (b.changeOf a).toList ++ changesIn as (b.act a)

/-- The bridge that an action lets dispatch: a poll as it is, an edit with the new text. -/
def dispatching? (a : Action) (b : Bridge) : Option Bridge :=
  match a with
  | .poll _ => some b
  | .edit s text =>
    (b.editor.workspace.setText s text).toOption.map fun p =>
      { b with editor := { b.editor with workspace := p.2 } }
  | _ => none

/-- The bridges that dispatch in a run, in the order in which they do. -/
def dispatchingIn : List Action → Bridge → List Bridge
  | [], _ => []
  | a :: as, b => (b.dispatching? a).toList ++ dispatchingIn as (b.act a)

/-- The changes that wait. -/
def queue (b : Bridge) : List Change := b.editor.workspace.changes

/-- The bridge in a dispatch when so many of the changes have had their turn. -/
def dispatchedTo (n : Nat) (b : Bridge) : Bridge :=
  b.withEditor
    ((b.queue.take n).foldl (Editor.dispatchChange b.session) (b.editor.settled, b.lines))

theorem dispatchedTo_zero (b : Bridge) :
    b.dispatchedTo 0 = { b with editor := b.editor.settled } := rfl

theorem dispatchedTo_length (b : Bridge) : b.dispatchedTo b.queue.length = b.dispatch := by
  rw [dispatchedTo, List.take_length]
  rfl

theorem dispatchedTo_succ {b : Bridge} {n : Nat} {c : Change} (turn : b.queue[n]? = some c) :
    b.dispatchedTo (n + 1) = (b.dispatchedTo n).withEditor
      (Editor.dispatchChange b.session ((b.dispatchedTo n).editor, (b.dispatchedTo n).lines)
        c) := by
  rw [dispatchedTo, List.take_add_one, turn, List.foldl_append]
  rfl

/-! ## The frames of a change -/

/-- Whether there is a session on a line whose reader is still there. -/
def isHeardAt (l : Nat) (b : Bridge) : Bool :=
  match b.session, b.lines[l]? with
  | some s, some line => s.line = l && line.isRead
  | _, _ => false

/-- What is sent on a line for a change whose turn has come: its text, with the address that the
primary surface has by then, if it is in the schema language and not of the output. -/
def schemaFrames (c : Change) (l : Nat) (b : Bridge) : List Frame :=
  if c.surface ≠ .output ∧ c.language = Language.schemaId ∧ b.isHeardAt l then
    b.editor.primaryUri.toList.map fun uri => (ClientNotification.schemaChanged c.text uri).frame
  else []

theorem framesAt_tell (n : ClientNotification) (l : Nat) (b : Bridge) :
    (tell b.session n b.lines).framesAt l
      = b.lines.framesAt l ++ if b.isHeardAt l then [n.frame] else [] := by
  unfold isHeardAt
  cases hs : b.session with
  | none => simp [tell]
  | some s =>
      have htell : tell (some s) n b.lines
          = (b.lines.send s.client.connection n.frame).getD b.lines := by
        simp only [tell, Session.tell, Rpc.Client.send]
        cases b.lines.send s.client.connection n.frame <;> rfl
      rw [htell]
      cases hsend : b.lines.send s.client.connection n.frame with
      | none =>
          -- what is not accepted has no reader
          have hunread : ∀ line, b.lines[s.line]? = some line → line.isRead = false := by
            intro line hline
            by_contra hread
            have haccept : b.lines.send s.client.connection n.frame
                = some (b.lines.set s.line (line.accept n.frame)) :=
              Lines.send_eq_some.2 ⟨line, hline, by simpa using hread, rfl⟩
            rw [hsend] at haccept
            cases haccept
          cases hline : b.lines[l]? with
          | none => simp
          | some line =>
              by_cases hl : s.line = l
              · subst hl
                simp [hunread line hline]
              · simp [hl]
      | some lines =>
          have hq := Lines.queued_of_send hsend
          obtain ⟨line, hline, hread, -⟩ := Lines.send_eq_some.1 hsend
          by_cases hl : s.line = l
          · subst hl
            have hline : b.lines[s.line]? = some line := hline
            have hframes : lines.framesAt s.line = b.lines.framesAt s.line ++ [n.frame] := hq.frames
            simp [hline, hread, hframes]
          · have hframes : lines.framesAt l = b.lines.framesAt l := hq.framesAt_of_ne (Ne.symm hl)
            cases b.lines[l]? <;> simp [hl, hframes]

/-- The turn of a change sends its frame and nothing else. -/
theorem framesAt_dispatchedTo {b : Bridge} {n : Nat} {c : Change} (turn : b.queue[n]? = some c)
    (l : Nat) :
    (b.dispatchedTo (n + 1)).lines.framesAt l
      = (b.dispatchedTo n).lines.framesAt l ++ (b.dispatchedTo n).schemaFrames c l := by
  have hlines : (b.dispatchedTo (n + 1)).lines
      = tellAll b.session ((b.dispatchedTo n).editor.changeNotices c) (b.dispatchedTo n).lines := by
    rw [dispatchedTo_succ turn, Editor.dispatchChange_eq]
    rfl
  rw [hlines, Editor.changeNotices, schemaFrames]
  by_cases ho : c.surface = .output
  · simp [ho]
  · by_cases hl : c.language = Language.schemaId
    · rw [if_neg ho, if_pos hl, Editor.schemaNotices]
      cases (b.dispatchedTo n).editor.primaryUri with
      | none => simp
      | some uri =>
          have htell := framesAt_tell (.schemaChanged c.text uri) l (b.dispatchedTo n)
          have hsession : (b.dispatchedTo n).session = b.session := rfl
          rw [hsession] at htell
          rw [tellAll_cons, tellAll_nil, htell]
          simp [ho, hl]
    · simp [ho, hl]

/-- What a dispatch sends on a line: the frames of the changes, each when its turn comes. -/
def dispatchFrames (l : Nat) (b : Bridge) : List Frame :=
  b.queue.zipIdx.flatMap fun turn => (b.dispatchedTo turn.2).schemaFrames turn.1 l

theorem framesAt_dispatch (l : Nat) (b : Bridge) :
    b.dispatch.lines.framesAt l = b.lines.framesAt l ++ b.dispatchFrames l := by
  -- the induction is on the changes that have had their turn
  have hturns : ∀ n, n ≤ b.queue.length →
      (b.dispatchedTo n).lines.framesAt l
        = b.lines.framesAt l ++ (b.queue.take n).zipIdx.flatMap
            fun turn => (b.dispatchedTo turn.2).schemaFrames turn.1 l := by
    intro n
    induction n with
    | zero =>
        intro _
        rw [dispatchedTo_zero]
        exact (List.append_nil _).symm
    | succ n ih =>
        intro hn
        obtain ⟨c, turn⟩ : ∃ c, b.queue[n]? = some c := ⟨_, List.getElem?_eq_getElem hn⟩
        have htake : (b.queue.take (n + 1)).zipIdx = (b.queue.take n).zipIdx ++ [(c, n)] := by
          rw [List.take_add_one, turn, List.zipIdx_append, List.length_take_of_le (Nat.le_of_lt hn)]
          simp
        rw [framesAt_dispatchedTo turn l, ih (Nat.le_of_lt hn), htake, List.flatMap_append,
          List.append_assoc]
        simp
  rw [← dispatchedTo_length, hturns _ (Nat.le_refl _), List.take_length]
  rfl

end Bridge

/-! ## The frames of an action -/

namespace Bridge

variable {name : String} {limit : Option Nat} {b after : Bridge} {e : Event}
variable {result : Except BridgeError (Option BridgeEvent)}

/-- The frames of an action: those of its dispatch, and behind them what else it sends. -/
theorem exists_sent_act (a : Action) (b : Bridge) (l : Nat) :
    ∃ others, b.Sends l a others
      ∧ (b.act a).lines.framesAt l
        = b.lines.framesAt l ++ (b.dispatching? a).toList.flatMap (dispatchFrames l) ++ others := by
  cases a using Action.cases_kind with
  | transport a transport =>
      rw [(act_of_isTransport transport b).2.2 l]
      have hnone : b.dispatching? a = none := by cases a <;> first | rfl | cases transport
      refine ⟨[], .transport transport, ?_⟩
      rw [hnone]
      simp
  | poll limit =>
      have hdispatch : (b.dispatching? (.poll limit)).toList.flatMap (dispatchFrames l)
          = b.dispatchFrames l := by simp [dispatching?]
      rw [hdispatch, ← framesAt_dispatch]
      exact exists_sent_poll limit l b
  | call a call =>
      by_cases hedit : ∃ s text, a = .edit s text
      · obtain ⟨s, text, rfl⟩ := hedit
        refine ⟨[], .edit, ?_⟩
        cases hw : b.editor.workspace.setText s text with
        | error err => simp [act, edit, dispatching?, hw, Except.toOption]
        | ok p =>
            have hdispatch := framesAt_dispatch l
              { b with editor := { b.editor with workspace := p.2 } }
            simpa [act, edit, dispatching?, hw, Except.toOption] using hdispatch
      · have hnone : b.dispatching? a = none := by
          cases a <;> first | rfl | exact absurd ⟨_, _, rfl⟩ hedit | cases call
        refine ⟨_, .called call fun s text he => hedit ⟨s, text, he⟩, ?_⟩
        rw [act_of_isCall call, hnone, framesAt_told_eq]
        simp [frames]

/-! ## Runs -/

theorem took_handling (h : Handling limit b e result after) :
    Editor.Took name b.editor after.editor
      (result.toOption.join.bind (BridgeEvent.change? b.editor.workspace)).toList [] := by
  cases h with
  | @started c ok =>
      rw [started_eq_told]
      exact Editor.took_reflectOptions b.editor
  | applied active done => exact Editor.took_applyNotification done
  | ignored active nothing =>
      rw [join_eq_none nothing]
      exact .refl _
  | _ => exact .refl _

/-- A poll dispatches what waits, and then the server may make a change. -/
theorem took_polling (once : b.editor.content.subscribers.count name = 1)
    (h : Polling limit b result after) :
    Editor.Took name b.editor after.editor
      (result.toOption.join.bind (BridgeEvent.change? b.dispatch.editor.workspace)).toList
      b.queue := by
  have hdispatch := Editor.took_absorbed once
  rw [← editor_dispatch] at hdispatch
  have hafter : Editor.Took name b.dispatch.editor after.editor
      (result.toOption.join.bind (BridgeEvent.change? b.dispatch.editor.workspace)).toList [] := by
    cases h with
    | idle empty nothing =>
        rw [join_eq_none nothing]
        exact .refl _
    | handled next handling =>
        rw [← (nextEvent_keeps next).1]
        exact took_handling handling
  have htook := hdispatch.trans hafter
  rwa [List.nil_append, List.append_nil] at htook

/-- The books of an action. -/
theorem took_act (once : b.editor.content.subscribers.count name = 1) {a : Action}
    (regular : a.isRegular = true) :
    Editor.Took name b.editor (b.act a).editor (b.changeOf a).toList
      ((b.dispatching? a).toList.flatMap queue) := by
  cases a using Action.cases_kind with
  | transport a transport =>
      rw [(act_of_isTransport transport b).1]
      cases a <;> first | exact .refl _ | cases transport
  | poll limit =>
      have hpoll := took_polling once (polling_poll limit b)
      simpa [act, changeOf, eventOf, dispatching?] using hpoll
  | call a call =>
      rw [act_of_isCall call]
      cases a with
      | edit s text =>
          cases hw : b.editor.workspace.setText s text with
          | error err =>
              simp [told, Editor.called, changeOf, Editor.change?, Workspace.change?, dispatching?,
                hw, Except.toOption, Editor.Took.refl]
          | ok p =>
              have hdispatch := (Editor.took_setText hw).trans
                (Editor.took_absorbed (e := { b.editor with workspace := p.2 }) once)
              simpa [told, Editor.called, changeOf, Editor.change?, Workspace.change?, dispatching?,
                hw, Except.toOption, queue] using hdispatch
      | selectOption kind value =>
          simp only [told, Editor.called]
          rcases b.editor.controls.select kind value with ⟨accepted, controls⟩
          rcases accepted with _ | _ | _
          · exact .refl _
          · exact .refl _
          · have hselect : Editor.Took name b.editor { b.editor with controls := controls } [] [] :=
              .of_eq rfl rfl
            exact hselect.trans (Editor.took_optionCalled kind)
      | optionChanged kind => exact Editor.took_optionCalled kind
      | sendSchemaState => exact .refl _
      | sendOptionState => exact Editor.took_reflectOptions b.editor
      | direct a =>
          have regular : a.isRegular = true := regular
          cases a with
          | setText s text =>
              have hact : (b.editor.called (.direct (.setText s text))).1
                  = { b.editor with workspace := b.editor.workspace.typed s text } := rfl
              cases hw : b.editor.workspace.setText s text with
              | error err =>
                  simp [told, hact, Workspace.typed, changeOf, Editor.change?, Workspace.change?,
                    dispatching?, hw, Except.toOption, Editor.Took.refl]
              | ok p =>
                  simpa [told, hact, Workspace.typed, changeOf, Editor.change?, Workspace.change?,
                    dispatching?, hw, Except.toOption] using Editor.took_setText hw
          | _ => exact Editor.took_act regular (by simp)
      | _ => cases call

/-- The books of a run. -/
theorem took_run (as : List Action) (once : b.editor.content.subscribers.count name = 1)
    (regular : ∀ a ∈ as, a.isRegular = true) :
    Editor.Took name b.editor (b.run as).editor (b.changesIn as)
      ((b.dispatchingIn as).flatMap queue) := by
  induction as generalizing b with
  | nil => exact .refl _
  | cons a as ih =>
      have hact := took_act once (regular a (by simp))
      have hrun := ih (b := b.act a) (by rw [hact.subscribers]; exact once)
        fun a' ha' => regular a' (by simp [ha'])
      rw [changesIn, dispatchingIn, List.flatMap_append]
      exact hact.trans hrun

/-- Every change is dispatched exactly once and in order. In any run in which the host leaves the
queue and the two texts of the store to the bridge, the changes that waited and those that the run
makes are those that the run dispatches, followed by those that wait in the end. A subscriber has
got just the writes of the dispatched changes, so that the writes of all changes are those that it
has got, followed by those of the changes that wait. A dispatch sends the frames of the changes, one
by one as they have their turn, and nothing else. An edit sends nothing beside its dispatch; what
any other action sends behind it is all accounted for, and none of it is about the schema unless
the state of the schema is sent. -/
theorem dispatched_of_run {as : List Action}
    (subscribed : b.editor.content.subscribers.count name = 1)
    (regular : ∀ a ∈ as, a.isRegular = true) :
    b.queue ++ b.changesIn as = (b.dispatchingIn as).flatMap queue ++ (b.run as).queue
      ∧ (b.run as).editor.content.textWrites name
        = b.editor.content.textWrites name
          ++ ((b.dispatchingIn as).flatMap queue).filterMap Change.write?
      ∧ b.editor.content.textWrites name ++ (b.queue ++ b.changesIn as).filterMap Change.write?
        = (b.run as).editor.content.textWrites name ++ (b.run as).queue.filterMap Change.write?
      ∧ (∀ d ∈ b.dispatchingIn as, ∀ l,
        d.dispatch.lines.framesAt l = d.lines.framesAt l ++ d.dispatchFrames l)
      ∧ ∀ before a more, as = before ++ a :: more → ∀ l, ∃ others,
        (b.run before).Sends l a others
          ∧ (∀ s text, a = .edit s text → others = [])
          ∧ ((b.run before).act a).lines.framesAt l
            = (b.run before).lines.framesAt l
              ++ ((b.run before).dispatching? a).toList.flatMap (dispatchFrames l) ++ others
          ∧ ((b.run before).SendsState a ∨ ∀ f ∈ others, f.isNotice schemaMethod = false) := by
  obtain ⟨hqueue, -, hwrites⟩ := took_run as subscribed regular
  have hqueue : b.queue ++ b.changesIn as
      = (b.dispatchingIn as).flatMap queue ++ (b.run as).queue := hqueue
  refine ⟨hqueue, hwrites, ?_, fun d _ l => framesAt_dispatch l d, fun before a more _ l => ?_⟩
  · rw [hqueue, hwrites, List.filterMap_append, List.append_assoc]
  · obtain ⟨others, hsends, hframes⟩ := exists_sent_act a (b.run before) l
    exact ⟨others, hsends, fun s text he => (he ▸ hsends).eq_nil_of_edit, hframes,
      hsends.isNotice_eq_false⟩

/-- The code is typed behind the back of the bridge and dispatched with the schema, of which alone the
server is told. A schema that is typed after that still waits. -/
theorem dispatched_of_run_reader :
    ∃ (b : Bridge) (as before more : List Action),
      (b.editor.content.subscribers.count "reader" = 1 ∧ ∀ a ∈ as, a.isRegular = true)
      ∧ b.changesIn as = (b.dispatchingIn as).flatMap queue ++ (b.run as).queue
      ∧ (b.run as).editor.content.textWrites "reader" = [(.code, "code 2"), (.schema, "b: 2")]
      ∧ (b.run as).queue.filterMap Change.write? = [(.schema, "c: 3")]
      ∧ as = before ++ .edit .schema "b: 2" :: more
      ∧ ((b.run before).act (.edit .schema "b: 2")).lines.framesAt 0
        = (b.run before).lines.framesAt 0
          ++ [(ClientNotification.schemaChanged "b: 2" "file:///main.ov").frame] := by
  generalize hb : ofEditor { Editor.sample with content := ContentStore.empty.subscribe "reader" }
    "page" = b
  have hcount : b.editor.content.subscribers.count "reader" = 1 := by
    rw [← hb]
    decide
  have hempty : b.queue = [] := by
    rw [← hb]
    rfl
  generalize hbefore : Action.welcome 1 ++ [.direct (.setText .primary "code 2")] = before
  generalize has : before ++ Action.edit .schema "b: 2" :: [.direct (.setText .schema "c: 3")] = as
  have hregular : ∀ a ∈ as, a.isRegular = true := by
    rw [← has, ← hbefore]
    decide
  have hwaiting : (b.run as).queue.filterMap Change.write? = [(.schema, "c: 3")] := by
    rw [← has, ← hbefore, ← hb]
    cbv
  have hwrites : ((b.dispatchingIn as).flatMap queue).filterMap Change.write?
      = [(.code, "code 2"), (.schema, "b: 2")] := by
    rw [← has, ← hbefore, ← hb]
    cbv
  have hcalls : b.editor.content.textWrites "reader" = [] := by
    rw [← hb]
    rfl
  have hdispatched : ((b.run before).dispatching? (.edit .schema "b: 2")).toList.flatMap
      (dispatchFrames 0) = [(ClientNotification.schemaChanged "b: 2" "file:///main.ov").frame] := by
    rw [← hbefore, ← hb]
    cbv
  obtain ⟨hqueue, hgot, -, -, hframes⟩ := dispatched_of_run hcount hregular
  rw [hempty, List.nil_append] at hqueue
  rw [hcalls, hwrites, List.nil_append] at hgot
  obtain ⟨others, -, hnone, hedit, -⟩ := hframes before _ _ has.symm 0
  rw [hdispatched, hnone _ _ rfl, List.append_nil] at hedit
  exact ⟨b, as, before, _, ⟨hcount, hregular⟩, hqueue, hgot, hwaiting, has.symm, hedit⟩

end Bridge

end SurfaceBridge
