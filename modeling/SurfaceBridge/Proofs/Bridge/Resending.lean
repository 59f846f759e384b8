import SurfaceBridge.Proofs.Bridge.SessionStart
import SurfaceBridge.Proofs.Rpc.Wire

set_option autoImplicit false

/-! # Sending the options again

Sending the values of the options selects the stored ones in their controls. This cannot go on for
ever: a control that has a stored value selected stays as it is when this value is selected again
(`reflectOptions_idem`), and what is sent depends on the stored values first, so the same is sent
each time. Nothing is stored on the way.

How much of it arrives is a matter of the room that the line has. Calls that follow each other share
the room (`allowance_tellAll`), so a line with room for all of them accepts the same from each.
-/

namespace SurfaceBridge

open Rpc (Frame Lines)

/-! ## Room -/

theorem tell_of_not_sent {s : Session} {n : ClientNotification} {lines : Lines}
    (h : lines.send s.client.connection n.frame = none) : tell (some s) n lines = lines := by
  simp [tell, Session.tell, Rpc.Client.send, h]

theorem tell_of_sent {s : Session} {n : ClientNotification} {lines lines' : Lines}
    (h : lines.send s.client.connection n.frame = some lines') :
    tell (some s) n lines = lines' := by
  simp [tell, Session.tell, Rpc.Client.send, h]

/-- What is told takes its share of the room of the line and leaves the rest. -/
theorem allowance_tellAll (s : Session) (ns : List ClientNotification) (k : Nat) (lines : Lines) :
    lines.allowance s.line (ns.length + k)
      = lines.allowance s.line ns.length + (tellAll (some s) ns lines).allowance s.line k := by
  induction ns generalizing lines with
  | nil =>
      have hnone := lines.allowance_le s.line 0
      rw [List.length_nil, Nat.zero_add, tellAll_nil]
      omega
  | cons n ns ih =>
      rw [tellAll_cons, List.length_cons, Nat.add_right_comm]
      cases hsend : lines.send s.client.connection n.frame with
      | none =>
          -- a line without room has none later
          have hnone : ∀ k, lines.allowance s.line k = 0 := Lines.allowance_of_not_sent hsend
          have hrest := ih lines
          rw [hnone, hnone] at hrest
          rw [tell_of_not_sent hsend, hnone, hnone]
          exact hrest
      | some lines' =>
          have hsent : ∀ k, lines.allowance s.line (k + 1) = lines'.allowance s.line k + 1 :=
            Lines.allowance_of_sent hsend
          rw [tell_of_sent hsend, hsent, hsent, ih lines']
          omega

/-- A line gets the first of what its session tells, as many as it has room for. -/
theorem framesAt_tellAll (s : Session) (ns : List ClientNotification) (lines : Lines) :
    (tellAll (some s) ns lines).framesAt s.line
      = lines.framesAt s.line
        ++ (ns.map ClientNotification.frame).take (lines.allowance s.line ns.length) := by
  induction ns generalizing lines with
  | nil => simp
  | cons n ns ih =>
      rw [tellAll_cons, ih, List.map_cons, List.length_cons]
      cases hsend : lines.send s.client.connection n.frame with
      | none =>
          have hnone : ∀ k, lines.allowance s.line k = 0 := Lines.allowance_of_not_sent hsend
          rw [tell_of_not_sent hsend, hnone, hnone, List.take_zero, List.take_zero]
      | some lines' =>
          have hsent : lines.allowance s.line (ns.length + 1)
              = lines'.allowance s.line ns.length + 1 := Lines.allowance_of_sent hsend _
          have hframe : lines'.framesAt s.line = lines.framesAt s.line ++ [n.frame] :=
            (Rpc.Lines.queued_of_send hsend).frames
          rw [tell_of_sent hsend, hsent, hframe, List.take_succ_cons, List.append_assoc]
          rfl

/-! ## The editor -/

/-- Controls are the same if they are the same for each option. -/
theorem PageControls.ext_get? {p q : PageControls} (h : ∀ kind, p.get? kind = q.get? kind) :
    p = q := by
  obtain ⟨culture, language⟩ := p
  have hculture : culture = q.culture := h .culture
  have hlanguage : language = q.language := h .language
  rw [hculture, hlanguage]

namespace Editor

theorem reflectedIn_idem (stored : Option String) (c : SelectControl) :
    reflectedIn stored (reflectedIn stored c) = reflectedIn stored c := by
  cases stored with
  | none => rfl
  | some value =>
      unfold reflectedIn SelectControl.select SelectControl.find?
      cases hfind : c.choices.findIdx? fun choice => choice.value = value with
      | none => simp [hfind]
      | some position => simp [hfind]

/-- Stored values that have been selected need not be selected again. -/
theorem reflectOptions_idem (e : Editor) : e.reflectOptions.reflectOptions = e.reflectOptions := by
  have hcontrols : e.reflectOptions.reflectOptions.controls = e.reflectOptions.controls := by
    refine PageControls.ext_get? fun kind => ?_
    rw [get?_reflectOptions, content_reflectOptions, get?_reflectOptions, Option.map_map]
    cases e.controls.get? kind with
    | none => rfl
    | some c => exact congrArg some (reflectedIn_idem _ c)
  calc e.reflectOptions.reflectOptions
      = ⟨e.reflectOptions.reflectOptions.workspace, e.reflectOptions.reflectOptions.content,
          e.reflectOptions.reflectOptions.controls, e.reflectOptions.reflectOptions.engine⟩ := rfl
    _ = e.reflectOptions := by
      rw [workspace_reflectOptions e.reflectOptions, content_reflectOptions e.reflectOptions,
        hcontrols, reflectOptions_engine e.reflectOptions]

theorem optionStateNotices_reflectOptions (e : Editor) :
    e.reflectOptions.optionStateNotices = e.optionStateNotices := by
  have hnotices : ∀ kind, e.reflectOptions.optionValueNotices kind = e.optionValueNotices kind := by
    intro kind
    show ((e.reflectOption .culture).reflectOption .language).optionValueNotices kind = _
    rw [optionValueNotices_reflectOption, optionValueNotices_reflectOption]
  unfold optionStateNotices
  rw [funext hnotices]

/-- At most one value of each option is sent, that of the culture first. -/
theorem methods_optionStateNotices (e : Editor) :
    (e.optionStateNotices.map ClientNotification.method).Sublist
      ["ov/cultureChanged", "ov/languageChanged"] := by
  have hone : ∀ kind method, (∀ value uri,
      (ClientNotification.optionChanged kind value uri).method = method) →
      ((e.optionValueNotices kind).map ClientNotification.method).Sublist [method] := by
    intro kind method named
    unfold optionValueNotices optionNotices
    cases e.optionValue kind with
    | none => exact List.nil_sublist _
    | some value =>
        cases e.primaryUri with
        | none => exact List.nil_sublist _
        | some uri => simp [named]
  have hculture := hone .culture "ov/cultureChanged" fun _ _ => rfl
  have hlanguage := hone .language "ov/languageChanged" fun _ _ => rfl
  have hboth := hculture.append hlanguage
  simpa [optionStateNotices, OptionKind.all] using hboth

end Editor

namespace Bridge

/-- The first of some frames that the session sends, as many as a line has room for. Lines other
than that of the session get none. -/
def heardAt (l : Nat) (fs : List Frame) (b : Bridge) : List Frame :=
  match b.session with
  | some s => if s.line = l then fs.take (b.lines.allowance l fs.length) else []
  | none => []

theorem framesAt_told_eq (b : Bridge) (e : Editor) (ns : List ClientNotification) (l : Nat) :
    (b.told e ns).lines.framesAt l
      = b.lines.framesAt l ++ b.heardAt l (ns.map ClientNotification.frame) := by
  unfold told heardAt
  cases hs : b.session with
  | none => simp
  | some s =>
      dsimp only
      by_cases hl : s.line = l
      · subst hl
        rw [if_pos rfl, framesAt_tellAll, List.length_map]
      · obtain ⟨fs, -, hqueued⟩ := queued_tellAll s ns b.lines
        rw [if_neg hl, hqueued.framesAt_of_ne (Ne.symm hl), List.append_nil]

/-! ## Calls -/

/-- What a call leaves that sends some frames: as many of them are queued as the line of the session
accepts, and nothing changes beside the selections of the controls. -/
structure Resent (fs : List Frame) (b after : Bridge) : Prop where
  sent : ∀ l, after.lines.framesAt l = b.lines.framesAt l ++ b.heardAt l fs
  reflected : Editor.Reflected b.editor after.editor
  content : after.editor.content = b.editor.content
  workspace : after.editor.workspace = b.editor.workspace
  rest : after = { b with editor := after.editor, lines := after.lines }

theorem resent_sendOptionState (b : Bridge) :
    Resent (b.editor.optionStateNotices.map ClientNotification.frame) b b.sendOptionState := by
  have hcall : b.sendOptionState = b.told b.editor.reflectOptions b.editor.optionStateNotices :=
    sendOptionState_eq b
  rw [hcall]
  exact ⟨b.framesAt_told_eq _ _, b.editor.reflected_reflectOptions, b.editor.content_reflectOptions,
    b.editor.workspace_reflectOptions, rfl⟩

/-- The calls that follow the first find the editor as the first has left it. -/
theorem editor_sendOptionState_iterate (n : Nat) (b : Bridge) :
    (sendOptionState^[n + 1] b).editor = b.editor.reflectOptions := by
  induction n generalizing b with
  | zero =>
      rw [Function.iterate_one, sendOptionState_eq]
  | succ n ih =>
      rw [Function.iterate_succ_apply, ih, sendOptionState_eq]
      exact b.editor.reflectOptions_idem

theorem optionStateNotices_iterate (n : Nat) (b : Bridge) :
    (sendOptionState^[n] b).editor.optionStateNotices = b.editor.optionStateNotices := by
  cases n with
  | zero => rfl
  | succ n =>
      rw [editor_sendOptionState_iterate, Editor.optionStateNotices_reflectOptions]

/-- A line with room for several calls gets the same frames from each. -/
theorem framesAt_iterate {s : Session} (n : Nat) {b : Bridge} (active : b.session = some s)
    (room : b.lines.allowance s.line (n * b.editor.optionStateNotices.length)
      = n * b.editor.optionStateNotices.length) :
    (sendOptionState^[n] b).lines.framesAt s.line
      = b.lines.framesAt s.line
        ++ (List.replicate n (b.editor.optionStateNotices.map ClientNotification.frame)).flatten := by
  induction n generalizing b with
  | zero => simp
  | succ n ih =>
      generalize hns : b.editor.optionStateNotices = ns at room ⊢
      have hcall : b.sendOptionState = b.told b.editor.reflectOptions ns :=
        hns ▸ sendOptionState_eq b
      have hlines : b.sendOptionState.lines = tellAll (some s) ns b.lines := by
        rw [hcall, ← active]
        rfl
      have hsession : b.sendOptionState.session = some s := by
        rw [hcall]
        exact active
      have hsame : b.sendOptionState.editor.optionStateNotices = ns := by
        rw [← hns]
        exact b.optionStateNotices_iterate 1
      -- the first call takes its share of the room and leaves the rest for the others
      have hshare := allowance_tellAll s ns (n * ns.length) b.lines
      have hfirst := b.lines.allowance_le s.line ns.length
      have hothers := (tellAll (some s) ns b.lines).allowance_le s.line (n * ns.length)
      rw [Nat.add_comm, ← Nat.succ_mul, room, Nat.succ_mul] at hshare
      have hrest : b.sendOptionState.lines.allowance s.line (n * ns.length) = n * ns.length := by
        rw [hlines]
        omega
      have hall : b.lines.allowance s.line ns.length = ns.length := by omega
      have hnext := ih hsession (hsame ▸ hrest)
      rw [Function.iterate_succ_apply, hnext, hsame, hlines, framesAt_tellAll, hall,
        List.take_of_length_le (by simp), List.append_assoc, List.replicate_succ,
        List.flatten_cons]

/-- What a change of an option leaves: the value is stored in one write and sent, and all else is as
it was. -/
structure Changed (kind : OptionKind) (value : String) (b after : Bridge) : Prop where
  stored : after.editor.content.get? kind.contentKey = some value
  written : after.editor.content = b.editor.content.set kind.contentKey value
  sent : ∀ l, after.lines.framesAt l = b.lines.framesAt l
    ++ b.heardAt l ((b.editor.workspace.uri .primary).toList.map fun uri =>
        (ClientNotification.optionChanged kind value uri).frame)
  controls : after.editor.controls = b.editor.controls
  workspace : after.editor.workspace = b.editor.workspace
  rest : after = { b with editor := after.editor, lines := after.lines }

/-- What a control shows is what its change stores and sends. -/
theorem changed_optionChanged {b : Bridge} {kind : OptionKind} {value : String}
    (shown : b.editor.controls.selected? kind = some value) :
    Changed kind value b (b.optionChanged kind) := by
  have hcalled : b.editor.optionCalled kind
      = (b.editor.store kind.contentKey value, b.editor.optionNotices kind value) := by
    unfold Editor.optionCalled
    rw [shown]
    rfl
  have hnotices : (b.editor.optionNotices kind value).map ClientNotification.frame
      = (b.editor.workspace.uri .primary).toList.map fun uri =>
        (ClientNotification.optionChanged kind value uri).frame := by
    unfold Editor.optionNotices Editor.primaryUri
    cases b.editor.workspace.uri .primary <;> rfl
  rw [optionChanged_eq, hcalled]
  refine ⟨?stored, rfl, fun l => ?sent, rfl, rfl, rfl⟩
  case stored =>
      show (b.editor.content.set kind.contentKey value).get? kind.contentKey = some value
      simp [ContentStore.set, ContentStore.get?, ContentValues.get?_put]
  case sent => rw [← hnotices, framesAt_told_eq]

/-- Sending the values of the options may be repeated. At most one value of each option is sent, and
each call sends the same as the first, as far as the line has room. Nothing is stored and no surface
changes. The first call selects stored values in their controls, and the others change nothing. So
an option whose stored value is offered has just this value when its control reports a change. -/
theorem resent_of_sendOptionState (b : Bridge) :
    (b.editor.optionStateNotices.map ClientNotification.method).Sublist
        ["ov/cultureChanged", "ov/languageChanged"]
      ∧ (∀ n, Resent (b.editor.optionStateNotices.map ClientNotification.frame)
        (sendOptionState^[n] b) (sendOptionState^[n + 1] b))
      ∧ (∀ n, sendOptionState^[n + 2] b
        = { sendOptionState^[n + 1] b with lines := (sendOptionState^[n + 2] b).lines })
      ∧ (∀ n s, b.session = some s →
        b.lines.allowance s.line (n * b.editor.optionStateNotices.length)
          = n * b.editor.optionStateNotices.length →
        (sendOptionState^[n] b).lines.framesAt s.line = b.lines.framesAt s.line
          ++ (List.replicate n (b.editor.optionStateNotices.map ClientNotification.frame)).flatten)
      ∧ ∀ n kind value, b.editor.OffersStored kind value →
        Changed kind value (sendOptionState^[n + 1] b)
          ((sendOptionState^[n + 1] b).optionChanged kind) := by
  have hstep : ∀ n, Resent (b.editor.optionStateNotices.map ClientNotification.frame)
      (sendOptionState^[n] b) (sendOptionState^[n + 1] b) := by
    intro n
    rw [Function.iterate_succ_apply', ← optionStateNotices_iterate n b]
    exact resent_sendOptionState _
  refine ⟨b.editor.methods_optionStateNotices, hstep, fun n => ?same,
    fun n s active room => ?live, fun n kind value offers => ?changed⟩
  case same =>
      have hrest := (hstep (n + 1)).rest
      have heditor : (sendOptionState^[n + 2] b).editor = (sendOptionState^[n + 1] b).editor := by
        rw [editor_sendOptionState_iterate, editor_sendOptionState_iterate]
      rw [heditor] at hrest
      exact hrest
  case live => exact framesAt_iterate n active room
  case changed =>
      refine changed_optionChanged ?_
      rw [editor_sendOptionState_iterate]
      exact b.editor.reflected_reflectOptions.selected kind value offers

/-- A culture is stored that the control does not show. Two calls send it twice, the second leaves
the bridge as it is, and then the control shows this culture and none other is stored. -/
theorem resent_of_sendOptionState_stored :
    ∃ b s, (ofEditor .sample "page").run (Action.welcome 1 ++ [.direct (.store .culture "en")]) = b
      ∧ b.session = some s ∧ s.line = 0
      ∧ b.lines.allowance s.line (2 * b.editor.optionStateNotices.length)
        = 2 * b.editor.optionStateNotices.length
      ∧ b.editor.OffersStored .culture "en"
      ∧ b.editor.controls.selected? .culture = some "de"
      ∧ b.sendOptionState.sendOptionState.lines.framesAt 0 = b.lines.framesAt 0
        ++ [(ClientNotification.optionChanged .culture "en" "file:///main.ov").frame,
          (ClientNotification.optionChanged .culture "en" "file:///main.ov").frame]
      ∧ b.sendOptionState.sendOptionState.editor = b.sendOptionState.editor
      ∧ (b.sendOptionState.optionChanged .culture).editor.content
        = b.editor.content.set .culture "en" := by
  generalize hb : (ofEditor .sample "page").run
    (Action.welcome 1 ++ [.direct (.store .culture "en")]) = b
  have hline : b.session.map Session.line = some 0 := by
    rw [← hb]
    cbv
  obtain ⟨s, hs, hzero⟩ := Option.map_eq_some_iff.1 hline
  have hnotices : b.editor.optionStateNotices
      = [.optionChanged .culture "en" "file:///main.ov"] := by
    rw [← hb]
    cbv
  have hroom : b.lines.allowance s.line (2 * b.editor.optionStateNotices.length)
      = 2 * b.editor.optionStateNotices.length := by
    rw [hzero, hnotices, ← hb]
    cbv
  have hoffers : b.editor.OffersStored .culture "en" := by
    refine ⟨by rw [← hb]; cbv, ⟨_, [.ofValue "de", .ofValue "en"], 0⟩, by rw [← hb]; cbv, ?_⟩
    exact ⟨.ofValue "en", by simp, rfl⟩
  have hshown : b.editor.controls.selected? .culture = some "de" := by
    rw [← hb]
    cbv
  obtain ⟨-, hresent, hsame, hlive, hchanged⟩ := resent_of_sendOptionState b
  have hframes := hlive 2 s hs hroom
  rw [hnotices, hzero] at hframes
  have heditor := congrArg Bridge.editor (hsame 0)
  have hcontent : b.sendOptionState.editor.content = b.editor.content := (hresent 0).content
  have hwritten := (hchanged 0 .culture "en" hoffers).written
  refine ⟨b, s, rfl, hs, hzero, hroom, hoffers, hshown, hframes, heditor, ?_⟩
  rw [← hcontent]
  exact hwritten

end Bridge

end SurfaceBridge
