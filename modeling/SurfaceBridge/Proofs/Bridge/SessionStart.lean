import SurfaceBridge.Proofs.Bridge.Conversation
import SurfaceBridge.Proofs.Bridge.Failures

set_option autoImplicit false

/-! # What a session starts with

The poll with which a session starts sends the state of the editor behind the handshake:
`currentState` says what this is, without the order of calls in which it is sent. The stored values
of the options are selected in their controls meanwhile (`Reflected`), which changes neither what is
sent nor anything that is stored.

How many frames a line accepts is not known, so the state is only known to have been sent completely
if the line is still read afterwards (`Attended`).
-/

namespace SurfaceBridge

open Rpc (Frame Lines)

/-! ## Lines that are read -/

/-- A line that is there and accepts the next frame. -/
def Rpc.Lines.Attended (l : Nat) (lines : Lines) : Prop :=
  ∃ line, lines[l]? = some line ∧ line.isRead = true

/-- A line that is still read has accepted what was told on it. -/
theorem attended_of_tell {s : Session} {n : ClientNotification} {lines : Lines}
    (h : (tell (some s) n lines).Attended s.line) :
    lines.Attended s.line
      ∧ (tell (some s) n lines).framesAt s.line = lines.framesAt s.line ++ [n.frame] := by
  cases hsend : lines.send s.client.connection n.frame with
  | none =>
      -- nothing was queued, so the line had been left before
      have htell : tell (some s) n lines = lines := by
        simp [tell, Session.tell, Rpc.Client.send, hsend]
      rw [htell] at h
      obtain ⟨line, hl, hr⟩ := h
      rw [Rpc.Lines.send_eq_some.2 ⟨line, hl, hr, rfl⟩] at hsend
      cases hsend
  | some lines' =>
      have htell : tell (some s) n lines = lines' := by
        simp [tell, Session.tell, Rpc.Client.send, hsend]
      obtain ⟨line, hl, hr, -⟩ := Rpc.Lines.send_eq_some.1 hsend
      rw [htell]
      exact ⟨⟨line, hl, hr⟩, (Rpc.Lines.queued_of_send hsend).frames⟩

theorem attended_of_tellAll {s : Session} {ns : List ClientNotification} {lines : Lines}
    (h : (tellAll (some s) ns lines).Attended s.line) :
    lines.Attended s.line
      ∧ (tellAll (some s) ns lines).framesAt s.line
        = lines.framesAt s.line ++ ns.map ClientNotification.frame := by
  induction ns generalizing lines with
  | nil => exact ⟨h, by simp⟩
  | cons n ns ih =>
      rw [tellAll_cons] at h ⊢
      obtain ⟨htold, hframes⟩ := ih h
      obtain ⟨hlines, hframe⟩ := attended_of_tell htold
      exact ⟨hlines, by rw [hframes, hframe]; simp⟩

namespace Editor

/-! ## What there is to tell -/

/-- What a server is told of an editor: the text of the schema and the values of the options, where
a stored value counts before a selected one. All this is told of the primary document. -/
def currentState (e : Editor) : List ClientNotification :=
  match e.workspace.uri .primary with
  | none => []
  | some uri =>
    ((e.workspace.text .schema).toList.map fun schema => .schemaChanged schema uri)
      ++ ((e.content.get? .culture <|> e.controls.selected? .culture).toList.map
        fun culture => .optionChanged .culture culture uri)
      ++ ((e.content.get? .language <|> e.controls.selected? .language).toList.map
        fun language => .optionChanged .language language uri)

theorem optionValueNotices_eq {e : Editor} {uri : String} (primary : e.primaryUri = some uri)
    (kind : OptionKind) :
    e.optionValueNotices kind
      = (e.optionValue kind).toList.map fun value => .optionChanged kind value uri := by
  unfold optionValueNotices optionNotices
  rw [primary]
  cases e.optionValue kind <;> rfl

theorem stateNotices_eq (e : Editor) :
    e.schemaStateNotices ++ e.optionStateNotices = e.currentState := by
  unfold currentState
  cases hprimary : e.workspace.uri .primary with
  | none =>
      have hnone : e.primaryUri = none := hprimary
      have hschema : e.schemaStateNotices = [] := by
        unfold schemaStateNotices schemaNotices
        rw [hnone]
        cases e.workspace.text .schema <;> rfl
      have hoption : ∀ kind, e.optionValueNotices kind = [] := by
        intro kind
        unfold optionValueNotices optionNotices
        rw [hnone]
        cases e.optionValue kind <;> rfl
      simp [hschema, optionStateNotices, hoption]
  | some uri =>
      have hsome : e.primaryUri = some uri := hprimary
      have hschema : e.schemaStateNotices
          = (e.workspace.text .schema).toList.map fun schema => .schemaChanged schema uri := by
        unfold schemaStateNotices schemaNotices
        rw [hsome]
        cases e.workspace.text .schema <;> rfl
      simp only [hschema, optionStateNotices, OptionKind.all, List.flatMap_cons, List.flatMap_nil,
        List.append_nil, optionValueNotices_eq hsome, List.append_assoc]
      rfl

theorem get?_store_of_ne (e : Editor) {key other : ContentKey} (value : String)
    (hne : other ≠ key) : (e.store key value).content.get? other = e.content.get? other := by
  simp [store, ContentStore.set, ContentStore.get?, ContentValues.get?_put, hne]

/-- Changes are stored under other keys than options. -/
theorem get?_absorb (e : Editor) (c : Change) (kind : OptionKind) :
    (e.absorb c).content.get? kind.contentKey = e.content.get? kind.contentKey := by
  have hschema : kind.contentKey ≠ .schema := by cases kind <;> decide
  have hcode : kind.contentKey ≠ .code := by cases kind <;> decide
  unfold absorb
  split
  · rfl
  · split
    · exact get?_store_of_ne e c.text hschema
    · split
      · exact get?_store_of_ne e c.text hcode
      · rfl

theorem get?_foldl_absorb (changes : List Change) (e : Editor) (kind : OptionKind) :
    (changes.foldl absorb e).content.get? kind.contentKey = e.content.get? kind.contentKey := by
  induction changes generalizing e with
  | nil => rfl
  | cons c changes ih => exact (ih (e.absorb c)).trans (get?_absorb e c kind)

theorem get?_absorbed (e : Editor) (kind : OptionKind) :
    e.absorbed.content.get? kind.contentKey = e.content.get? kind.contentKey :=
  get?_foldl_absorb e.workspace.changes e.settled kind

/-- Dispatching changes does not change what there is to tell. -/
theorem currentState_absorbed (e : Editor) : e.absorbed.currentState = e.currentState := by
  have hculture : e.absorbed.content.get? .culture = e.content.get? .culture :=
    get?_absorbed e .culture
  have hlanguage : e.absorbed.content.get? .language = e.content.get? .language :=
    get?_absorbed e .language
  unfold currentState
  rw [absorbed_workspace, controls_absorbed, hculture, hlanguage]
  rfl

/-! ## Controls -/

/-- A value is stored for an option, and its control offers it. -/
def OffersStored (e : Editor) (kind : OptionKind) (value : String) : Prop :=
  e.content.get? kind.contentKey = some value
    ∧ ∃ control, e.controls.get? kind = some control
      ∧ ∃ choice ∈ control.choices, choice.value = value

/-- The controls of `after` are those of `e`, but that each control that offers the stored value of
its option has it selected. -/
structure Reflected (e after : Editor) : Prop where
  selected : ∀ kind value, e.OffersStored kind value → after.controls.selected? kind = some value
  kept : ∀ kind, (∀ value, ¬ e.OffersStored kind value) →
    after.controls.get? kind = e.controls.get? kind
  choices : ∀ kind, (after.controls.get? kind).map (fun c => (c.id, c.choices))
    = (e.controls.get? kind).map fun c => (c.id, c.choices)

/-- A value that is offered gets selected. -/
theorem selected?_select_of_offered {c : SelectControl} {value : String}
    (offered : ∃ choice ∈ c.choices, choice.value = value) :
    (c.select value).2.selected? = some value := by
  unfold SelectControl.select SelectControl.find?
  cases hfind : c.choices.findIdx? fun choice => choice.value = value with
  | none =>
      rw [List.findIdx?_eq_none_iff] at hfind
      obtain ⟨choice, hmem, hvalue⟩ := offered
      simpa [hvalue] using hfind choice hmem
  | some position =>
      obtain ⟨hlt, hvalue, -⟩ := List.findIdx?_eq_some_iff_getElem.1 hfind
      have hvalue : c.choices[position].value = value := by simpa using hvalue
      simp [SelectControl.selected?, List.getElem?_eq_getElem hlt, hvalue]

/-- Any other value changes nothing. -/
theorem select_of_not_offered {c : SelectControl} {value : String}
    (notOffered : ¬ ∃ choice ∈ c.choices, choice.value = value) : (c.select value).2 = c := by
  have hfind : c.find? value = none := by
    refine List.findIdx?_eq_none_iff.2 fun choice hmem => ?_
    exact decide_eq_false fun hvalue => notOffered ⟨choice, hmem, hvalue⟩
  rw [SelectControl.select, hfind]

/-- The control of an option with a stored value selected. -/
def reflectedIn (stored : Option String) (c : SelectControl) : SelectControl :=
  match stored with
  | none => c
  | some value => (c.select value).2

theorem reflectedIn_of_not_offered {stored : Option String} {c : SelectControl}
    (notOffered : ∀ value, stored = some value → ¬ ∃ choice ∈ c.choices, choice.value = value) :
    reflectedIn stored c = c := by
  cases stored with
  | none => rfl
  | some value => exact select_of_not_offered (notOffered value rfl)

/-- Selecting changes neither the id nor the choices. -/
theorem choices_reflectedIn (stored : Option String) (c : SelectControl) :
    ((reflectedIn stored c).id, (reflectedIn stored c).choices) = (c.id, c.choices) := by
  cases stored with
  | none => rfl
  | some value =>
      unfold reflectedIn SelectControl.select
      dsimp only
      split <;> rfl

theorem get?_reflectOption (e : Editor) (kind other : OptionKind) :
    (e.reflectOption kind).controls.get? other
      = if other = kind then
          (e.controls.get? kind).map (reflectedIn (e.content.get? kind.contentKey))
        else e.controls.get? other := by
  unfold reflectOption
  cases e.content.get? kind.contentKey with
  | none =>
      by_cases ho : other = kind
      · subst ho
        rw [if_pos rfl]
        show e.controls.get? other = _
        cases e.controls.get? other <;> rfl
      · rw [if_neg ho]
  | some value =>
      show (e.controls.select kind value).2.get? other = _
      unfold PageControls.select
      cases hcontrol : e.controls.get? kind with
      | none =>
          by_cases ho : other = kind
          · subst ho
            rw [if_pos rfl]
            exact hcontrol
          · rw [if_neg ho]
      | some c => exact PageControls.get?_put e.controls kind other (some (c.select value).2)

theorem get?_reflectOptions (e : Editor) (kind : OptionKind) :
    e.reflectOptions.controls.get? kind
      = (e.controls.get? kind).map (reflectedIn (e.content.get? kind.contentKey)) := by
  show ((e.reflectOption .culture).reflectOption .language).controls.get? kind = _
  rw [get?_reflectOption, reflectOption_content]
  cases kind with
  | culture =>
      rw [if_neg (by decide), get?_reflectOption, if_pos rfl]
  | language =>
      rw [if_pos rfl, get?_reflectOption, if_neg (by decide)]

theorem reflected_reflectOptions (e : Editor) : Reflected e e.reflectOptions where
  selected kind value offers := by
    obtain ⟨hstored, control, hcontrol, offered⟩ := offers
    unfold PageControls.selected?
    rw [get?_reflectOptions, hcontrol, hstored]
    exact selected?_select_of_offered offered
  kept kind nothing := by
    rw [get?_reflectOptions]
    cases hcontrol : e.controls.get? kind with
    | none => rfl
    | some control =>
        have hsame := reflectedIn_of_not_offered (c := control)
          fun value hstored offered => nothing value ⟨hstored, control, hcontrol, offered⟩
        exact congrArg some hsame
  choices kind := by
    rw [get?_reflectOptions]
    cases e.controls.get? kind with
    | none => rfl
    | some control => exact congrArg some (choices_reflectedIn _ control)

theorem content_reflectOptions (e : Editor) : e.reflectOptions.content = e.content := by
  show ((e.reflectOption .culture).reflectOption .language).content = _
  rw [reflectOption_content, reflectOption_content]

theorem workspace_reflectOptions (e : Editor) : e.reflectOptions.workspace = e.workspace := by
  show ((e.reflectOption .culture).reflectOption .language).workspace = _
  rw [reflectOption_workspace, reflectOption_workspace]

/-- Dispatching changes touches neither the controls nor the stored options. -/
theorem Reflected.of_absorbed {e after : Editor} (h : Reflected e.absorbed after) :
    Reflected e after := by
  have hoffers : ∀ kind value, e.absorbed.OffersStored kind value ↔ e.OffersStored kind value := by
    intro kind value
    unfold OffersStored
    rw [get?_absorbed, controls_absorbed]
  obtain ⟨hselected, hkept, hchoices⟩ := h
  simp only [hoffers, controls_absorbed] at hselected hkept hchoices
  exact ⟨hselected, hkept, hchoices⟩

end Editor

namespace Bridge

/-- What a poll leaves that has started a session with the given id: the session, the frames on its
line, and an editor of which the controls reflect what is stored. -/
structure Started (id : Nat) (b after : Bridge) (s : Session) : Prop where
  session : after.session = some s
  isStarted : s.isStarted = true
  opened : b.waiting.head? = some (.opened s.client.connection)
  named : s.client.connection.id = id
  /-- The handshake comes first, and the state of the editor behind it. -/
  told : after.lines.Attended s.line → ∃ answers : List Frame, (∀ f ∈ answers, f.IsAnswer)
    ∧ after.lines.framesAt s.line = Session.greeting b.clientName :: answers
      ++ Session.confirmation :: b.editor.currentState.map ClientNotification.frame
  /-- No other line gets anything but what the changes that waited are worth. -/
  others : ∀ l, l ≠ s.line → after.lines.framesAt l = b.dispatch.lines.framesAt l
  reflected : Editor.Reflected b.editor after.editor
  content : after.editor.content = b.dispatch.editor.content
  workspace : after.editor.workspace = b.dispatch.editor.workspace
  documents : after.editor.workspace.documents = b.editor.workspace.documents

/-- The editor and the lines after a handshake that has succeeded, with the state of the editor
sent. -/
theorem withSession_told (b : Bridge) (c : Rpc.Connection) (limit : Option Nat) :
    (b.withSession c limit).sendSchemaState.sendOptionState
      = (b.withSession c limit).told b.editor.reflectOptions b.editor.currentState := by
  rw [started_eq_told, ← Editor.stateNotices_eq]
  unfold told
  rw [tellAll_append]
  rfl

/-- What is left by a handshake that succeeds with the next connection. -/
theorem started_of_handshake {clientName : String} {b taken : Bridge} {c : Rpc.Connection}
    {limit : Option Nat} (orderly : Orderly clientName b)
    (next : b.dispatch.nextEvent = some (.opened c, taken))
    (ok : (taken.handshake c limit).outcome = .ok ()) :
    Started c.id b (taken.withSession c limit).sendSchemaState.sendOptionState
      (taken.handshake c limit).session := by
  obtain ⟨hkeep, hname, hlines, -⟩ := nextEvent_keeps next
  have heditor : taken.editor = b.editor.absorbed := hkeep.trans (editor_dispatch b)
  have hspec := taken.handshake_spec c limit
  have hline : (taken.handshake c limit).session.line = c.line := line_handshake taken c limit
  -- nothing is queued on the line of a connection before it is opened
  have hfresh : taken.lines.framesAt c.line = [] := by
    rw [hlines]
    exact orderly.dispatch.fresh c (orderly.dispatch.next_opened next).1
  obtain ⟨answers, hanswers, hconfirmed, -⟩ := @exists_answers_handshake c limit taken hfresh
  rw [withSession_told, heditor, Editor.currentState_absorbed]
  refine ⟨rfl, hspec.isStarted ok, ?opened, ?named, fun attended => ⟨answers, hanswers, ?told⟩,
    fun l hl => ?others, (Editor.reflected_reflectOptions _).of_absorbed, ?content, ?workspace,
    ?documents⟩
  case opened =>
      have hwaiting : b.waiting = .opened c :: taken.waiting := (nextEvent_eq_some next).1
      rw [hwaiting, hspec.connection]
      rfl
  case named => rw [hspec.connection]
  case told =>
      have hframes := (attended_of_tellAll attended).2
      have hconfirmation := hconfirmed ok
      rw [← hline] at hconfirmation
      have hclient : taken.clientName = b.clientName := hname
      calc _ = (taken.handshake c limit).lines.framesAt (taken.handshake c limit).session.line
              ++ b.editor.currentState.map ClientNotification.frame := hframes
        _ = _ := by
          rw [hconfirmation, hclient]
          simp
  case others =>
      have hne : ∀ s, (taken.withSession c limit).session = some s → l ≠ s.line := by
        intro s hs
        cases hs
        exact hl
      obtain ⟨fs, hqueued, -⟩ := hspec.queued
      rw [framesAt_told _ _ _ hne, ← hlines]
      exact hqueued.framesAt_of_ne (hline ▸ hl)
  case content =>
      rw [editor_dispatch]
      exact Editor.content_reflectOptions _
  case workspace =>
      rw [editor_dispatch]
      exact Editor.workspace_reflectOptions _
  case documents =>
      show (b.editor.absorbed.reflectOptions).workspace.documents = _
      rw [Editor.workspace_reflectOptions, Editor.absorbed_workspace]
      rfl

/-- The poll with which a session starts reports the state of the editor behind the handshake, and
changes nothing else of the editor than the selections of the controls. -/
theorem started_of_poll (e : Editor) (clientName : String) (as : List Action) {b : Bridge}
    (reached : (ofEditor e clientName).run as = b) (limit : Option Nat) (id : Nat)
    (started : (b.poll limit).1 = .ok (some (.sessionStarted id))) :
    ∃ s, Started id b (b.poll limit).2 s := by
  have horderly : Orderly clientName b := by
    rw [← reached]
    exact (orderly_ofEditor e clientName).run as
  have hpolling := polling_poll limit b
  rw [started] at hpolling
  generalize (b.poll limit).2 = after at hpolling ⊢
  cases hpolling with
  | idle empty nothing => exact absurd rfl (nothing _)
  | handled next handling =>
      cases handling with
      | ignored active nothing => exact absurd rfl (nothing _)
      | started ok => exact ⟨_, started_of_handshake horderly next ok⟩

/-- A session starts while another culture is stored than the one that is selected. -/
theorem started_of_poll_stored :
    ∃ b, (ofEditor .sample "page").run [.direct (.store .culture "en"),
        .signal (.opened 1 none), .signal (.message 1 "\x7b\"id\":1,\"result\":null\x7d")] = b
      ∧ (b.poll none).1 = .ok (some (.sessionStarted 1))
      ∧ b.editor.controls.selected? .culture = some "de"
      ∧ (b.poll none).2.editor.controls.selected? .culture = some "en"
      ∧ ∃ answers : List Frame, (∀ f ∈ answers, f.IsAnswer)
        ∧ (b.poll none).2.lines.framesAt 0
          = Session.greeting "page" :: answers ++ Session.confirmation ::
            [(ClientNotification.schemaChanged "a: 1" "file:///main.ov").frame,
              (ClientNotification.optionChanged .culture "en" "file:///main.ov").frame] := by
  generalize hb : (ofEditor .sample "page").run [.direct (.store .culture "en"),
    .signal (.opened 1 none), .signal (.message 1 "\x7b\"id\":1,\"result\":null\x7d")] = b
  have hpoll : (b.poll none).1.toOption.join = some (.sessionStarted 1) := by
    rw [← hb]
    cbv
  have hstarted : (b.poll none).1 = .ok (some (.sessionStarted 1)) := by
    cases hresult : (b.poll none).1 with
    | error err => simp [hresult, Except.toOption] at hpoll
    | ok event => simpa [hresult, Except.toOption] using hpoll
  have hline : (b.poll none).2.session.map Session.line = some 0 := by
    rw [← hb]
    cbv
  have hread : (b.poll none).2.lines[0]?.map Rpc.Line.isRead = some true := by
    rw [← hb]
    cbv
  have hstate : b.editor.currentState = [.schemaChanged "a: 1" "file:///main.ov",
      .optionChanged .culture "en" "file:///main.ov"] := by
    rw [← hb]
    cbv
  have hselected : b.editor.controls.selected? .culture = some "de" := by
    rw [← hb]
    cbv
  have hname : b.clientName = "page" := by
    rw [← hb]
    cbv
  have hoffers : b.editor.OffersStored .culture "en" := by
    rw [← hb]
    exact ⟨by cbv, _, rfl, ⟨"en", "en"⟩, by decide, rfl⟩
  obtain ⟨s, h⟩ := started_of_poll .sample "page" _ hb none 1 hstarted
  have hzero : s.line = 0 := by
    rw [h.session] at hline
    exact Option.some.inj hline
  have hattended : (b.poll none).2.lines.Attended s.line := by
    rw [hzero]
    exact Option.map_eq_some_iff.1 hread
  obtain ⟨answers, hanswers, hframes⟩ := h.told hattended
  rw [hzero, hname, hstate] at hframes
  exact ⟨b, rfl, hstarted, hselected, h.reflected.selected .culture "en" hoffers, answers, hanswers,
    hframes⟩

end Bridge

end SurfaceBridge
