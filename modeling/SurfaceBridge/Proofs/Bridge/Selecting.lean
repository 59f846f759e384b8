import SurfaceBridge.Proofs.Bridge.Dispatching
import SurfaceBridge.Proofs.Bridge.Independence
import SurfaceBridge.Proofs.Bridge.SessionStart

set_option autoImplicit false

/-! # Selecting an option

A control comes into being with its first choice selected, and after that only selections move the
position of it (`IsMade`). Such a control shows one of the values that it offers (`IsSettled`), and
no action of a run makes any other control, so that this holds of every bridge that is reached.

`Selected` is what an accepted selection comes to. The value is stored and sent by reading back what
the control shows, which is the value that was asked for, also if a control offers it twice.
-/

namespace SurfaceBridge

open Rpc (Frame)

/-! ## Controls -/

namespace SelectControl

/-- A control that has been made with some choices and in which values may have been selected. -/
inductive IsMade : SelectControl → Prop where
  | ofChoices (id : String) (choices : List Choice) : IsMade (.ofChoices id choices)
  | select {c : SelectControl} (value : String) (made : IsMade c) : IsMade (c.select value).2

/-- Whether a value is among the choices. -/
def Offers (c : SelectControl) (value : String) : Prop :=
  ∃ choice ∈ c.choices, choice.value = value

/-- A control that shows one of the values that it offers, or nothing, and then it offers none. -/
def IsSettled (c : SelectControl) : Prop :=
  (∃ value, c.selected? = some value ∧ c.Offers value) ∨ (c.selected? = none ∧ c.choices = [])

variable {c : SelectControl}

/-- The position is always that of a choice. -/
theorem IsMade.position (h : c.IsMade) : c.choices = [] ∨ c.position < c.choices.length := by
  induction h with
  | ofChoices id choices =>
      cases choices with
      | nil => exact Or.inl rfl
      | cons choice choices => exact Or.inr (Nat.succ_pos _)
  | @select c value made ih =>
      unfold SelectControl.select
      cases hfind : c.find? value with
      | none => exact ih
      | some position => exact Or.inr (List.findIdx?_eq_some_iff_getElem.1 hfind).1

theorem IsMade.settled (h : c.IsMade) : c.IsSettled := by
  rcases h.position with hempty | hlt
  · exact Or.inr ⟨by simp [selected?, hempty], hempty⟩
  · refine Or.inl ⟨c.choices[c.position].value, ?_, _, List.getElem_mem hlt, rfl⟩
    simp [selected?, List.getElem?_eq_getElem hlt]

theorem offers_iff (c : SelectControl) (value : String) :
    c.Offers value ↔ (c.find? value).isSome = true := by
  rw [find?, List.findIdx?_isSome, List.any_eq_true]
  simp only [Offers, decide_eq_true_eq]

end SelectControl

namespace PageControls

/-- Controls that have been made, if they are there. -/
def IsMade (p : PageControls) : Prop := ∀ kind c, p.get? kind = some c → c.IsMade

/-- Whether there is a control for an option that offers a value. -/
def Offers (kind : OptionKind) (value : String) (p : PageControls) : Prop :=
  ∃ c, p.get? kind = some c ∧ c.Offers value

variable {p : PageControls}

theorem isMade_ofValues (cultures languages : List String) : (ofValues cultures languages).IsMade := by
  have hcontrol : ∀ kind values c, controlOf kind values = some c → c.IsMade := by
    intro kind values c h
    unfold controlOf at h
    split at h
    · cases h
    · cases h
      exact .ofChoices _ _
  intro kind c h
  cases kind with
  | culture => exact hcontrol .culture cultures c h
  | language => exact hcontrol .language languages c h

theorem IsMade.select (h : p.IsMade) (kind : OptionKind) (value : String) :
    (p.select kind value).2.IsMade := by
  unfold PageControls.select
  cases hc : p.get? kind with
  | none => exact h
  | some c =>
      intro other c' h'
      rw [get?_put] at h'
      split at h'
      · cases h'
        exact (h kind c hc).select value
      · exact h other c' h'

variable (p) (kind : OptionKind) (value : String)

/-- A selection is accepted if and only if the value is offered. -/
theorem accepted_iff : (p.select kind value).1 = some true ↔ p.Offers kind value := by
  rw [select_fst, choices?, Offers]
  cases p.get? kind with
  | none => simp
  | some c =>
      simp only [Option.map_some, Option.some.injEq, exists_eq_left']
      exact (c.offers_iff value).symm

theorem put_get? : p.put kind (p.get? kind) = p := by
  cases kind <;> rfl

/-- A selection that is not accepted leaves the controls as they are. -/
theorem select_of_not_accepted (rejected : (p.select kind value).1 ≠ some true) :
    (p.select kind value).2 = p := by
  unfold select SelectControl.select at rejected ⊢
  cases hc : p.get? kind with
  | none => rfl
  | some c =>
      rw [hc] at rejected
      cases hfind : c.find? value with
      | none =>
          simp only [hfind, ← hc]
          exact p.put_get? kind
      | some position => simp [hfind] at rejected

/-- A selection is of one control and moves nothing but its position. -/
theorem get?_select (other : OptionKind) :
    (other ≠ kind → (p.select kind value).2.get? other = p.get? other)
      ∧ ((p.select kind value).2.get? other).map (fun c => (c.id, c.choices))
        = (p.get? other).map fun c => (c.id, c.choices) := by
  unfold select
  cases hc : p.get? kind with
  | none => exact ⟨fun _ => rfl, rfl⟩
  | some c =>
      have hkeep : ((c.select value).2.id, (c.select value).2.choices) = (c.id, c.choices) :=
        Editor.choices_reflectedIn (some value) c
      dsimp only
      rw [get?_put]
      by_cases ho : other = kind
      · subst ho
        rw [if_pos rfl, hc]
        exact ⟨fun hne => absurd rfl hne, congrArg some hkeep⟩
      · rw [if_neg ho]
        exact ⟨fun _ => rfl, rfl⟩

end PageControls

/-! ## Runs -/

namespace Editor

theorem isMade_reflectOption {e : Editor} (h : e.controls.IsMade) (kind : OptionKind) :
    (e.reflectOption kind).controls.IsMade := by
  unfold reflectOption
  cases e.content.get? kind.contentKey with
  | none => exact h
  | some value => exact h.select kind value

theorem isMade_reflectOptions {e : Editor} (h : e.controls.IsMade) :
    e.reflectOptions.controls.IsMade :=
  isMade_reflectOption (isMade_reflectOption h .culture) .language

theorem controls_optionCalled (e : Editor) (kind : OptionKind) :
    (e.optionCalled kind).1.controls = e.controls := by
  unfold optionCalled
  cases e.controls.selected? kind <;> rfl

/-- A call of the host selects values, unless it brings controls of its own. -/
theorem isMade_called {e : Editor} (h : e.controls.IsMade) {a : Action}
    (replaced : ∀ e', a = .direct (.replace e') → e'.controls.IsMade) :
    (e.called a).1.controls.IsMade := by
  cases a with
  | edit s text =>
      simp only [called]
      cases e.workspace.setText s text with
      | error err => exact h
      | ok p =>
          dsimp only
          rw [controls_absorbed]
          exact h
  | selectOption kind value =>
      have hselect : (e.controls.select kind value).2.IsMade := h.select kind value
      simp only [called]
      rcases hs : e.controls.select kind value with ⟨accepted, controls⟩
      rw [hs] at hselect
      rcases accepted with _ | _ | _
      · exact h
      · exact h
      · dsimp only
        rw [controls_optionCalled]
        exact hselect
  | optionChanged kind =>
      simp only [called]
      rw [controls_optionCalled]
      exact h
  | sendOptionState => exact isMade_reflectOptions h
  | direct a =>
      cases a with
      | select kind value => exact h.select kind value
      | replace e' => exact replaced e' rfl
      | _ => exact h
  | _ => exact h

end Editor

namespace Bridge

variable {limit : Option Nat} {b after : Bridge} {e : Event}
variable {result : Except BridgeError (Option BridgeEvent)}

/-- The server has no say in the controls, but that a session starts by reflecting what is stored in
them. -/
theorem isMade_handling (h : Handling limit b e result after) (made : b.editor.controls.IsMade) :
    after.editor.controls.IsMade := by
  cases h with
  | started ok =>
      rw [started_eq_told]
      exact Editor.isMade_reflectOptions made
  | applied active done =>
      rw [(Editor.applyNotification_eq_ok done).1]
      exact made
  | _ => exact made

theorem isMade_polling (h : Polling limit b result after) (made : b.editor.controls.IsMade) :
    after.editor.controls.IsMade := by
  have hdispatch : b.dispatch.editor.controls.IsMade := by
    rw [editor_dispatch, Editor.controls_absorbed]
    exact made
  cases h with
  | idle => exact hdispatch
  | handled next handling =>
      refine isMade_handling handling ?_
      rw [(nextEvent_keeps next).1]
      exact hdispatch

theorem isMade_act (made : b.editor.controls.IsMade) {a : Action}
    (replaced : ∀ e', a = .direct (.replace e') → e'.controls.IsMade) :
    (b.act a).editor.controls.IsMade := by
  cases a using Action.cases_kind with
  | transport a transport =>
      rw [(act_of_isTransport transport b).1]
      exact made
  | poll limit => exact isMade_polling (polling_poll limit b) made
  | call a call =>
      rw [act_of_isCall call]
      exact Editor.isMade_called made replaced

theorem isMade_run (as : List Action) (made : b.editor.controls.IsMade)
    (replaced : ∀ e', .direct (.replace e') ∈ as → e'.controls.IsMade) :
    (b.run as).editor.controls.IsMade := by
  induction as generalizing b with
  | nil => exact made
  | cons a as ih =>
      refine ih (isMade_act made fun e' ha => replaced e' ?_) fun e' he' => replaced e' ?_
      · simp [ha]
      · simp [he']

/-! ## What a selection does -/

/-- What an accepted selection leaves: the control shows the value, the store has got it in one
write, and the session has been told of it, if there is one on a line that is read and the primary
surface is open. All the rest is as it was, also the changes that wait. -/
structure Selected (kind : OptionKind) (value : String) (b after : Bridge) : Prop where
  shown : after.editor.controls.selected? kind = some value
  stored : after.editor.content.get? kind.contentKey = some value
  written : after.editor.content = b.editor.content.set kind.contentKey value
  sent : ∀ l, after.lines.framesAt l = b.lines.framesAt l
    ++ if b.isHeardAt l then
        (b.editor.workspace.uri .primary).toList.map fun uri =>
          (ClientNotification.optionChanged kind value uri).frame
      else []
  otherControls : ∀ other, other ≠ kind →
    after.editor.controls.get? other = b.editor.controls.get? other
  choices : ∀ other, (after.editor.controls.get? other).map (fun c => (c.id, c.choices))
    = (b.editor.controls.get? other).map fun c => (c.id, c.choices)
  otherValues : ∀ key, key ≠ kind.contentKey →
    after.editor.content.get? key = b.editor.content.get? key
  workspace : after.editor.workspace = b.editor.workspace
  rest : after = { b with editor := after.editor, lines := after.lines }

theorem selectOption_of_rejected {kind : OptionKind} {value : String}
    (rejected : (b.editor.controls.select kind value).1 ≠ some true) :
    b.selectOption kind value = (false, b) := by
  unfold selectOption
  rcases hs : b.editor.controls.select kind value with ⟨accepted, controls⟩
  rcases accepted with _ | _ | _
  · rfl
  · rfl
  · rw [hs] at rejected
    exact absurd rfl rejected

/-- An accepted selection stores and sends what has been asked for. -/
theorem selectOption_of_accepted {kind : OptionKind} {value : String}
    (accepted : (b.editor.controls.select kind value).1 = some true) :
    b.selectOption kind value
      = (true, b.told
          (({ b.editor with controls := (b.editor.controls.select kind value).2 } : Editor).store
            kind.contentKey value)
          (b.editor.optionNotices kind value)) := by
  have hselected := b.editor.controls.selected?_select kind value accepted
  unfold selectOption
  rcases hs : b.editor.controls.select kind value with ⟨accepted', controls⟩
  rw [hs] at accepted hselected
  obtain rfl : accepted' = some true := accepted
  have hcalled : ({ b.editor with controls := controls } : Editor).optionCalled kind
      = (({ b.editor with controls := controls } : Editor).store kind.contentKey value,
        b.editor.optionNotices kind value) := by
    unfold Editor.optionCalled
    rw [show ({ b.editor with controls := controls } : Editor).controls.selected? kind
      = some value from hselected]
    rfl
  dsimp only
  rw [optionChanged_eq, hcalled]
  rfl

theorem framesAt_optionNotices (b : Bridge) (kind : OptionKind) (value : String) (l : Nat) :
    (tellAll b.session (b.editor.optionNotices kind value) b.lines).framesAt l
      = b.lines.framesAt l
        ++ if b.isHeardAt l then
            (b.editor.workspace.uri .primary).toList.map fun uri =>
              (ClientNotification.optionChanged kind value uri).frame
          else [] := by
  unfold Editor.optionNotices Editor.primaryUri
  cases b.editor.workspace.uri .primary with
  | none => simp
  | some uri => exact framesAt_tell (.optionChanged kind value uri) l b

theorem selected_selectOption {kind : OptionKind} {value : String}
    (accepted : (b.editor.controls.select kind value).1 = some true) :
    Selected kind value b (b.selectOption kind value).2 := by
  rw [selectOption_of_accepted accepted]
  refine ⟨b.editor.controls.selected?_select kind value accepted, ?stored, rfl,
    b.framesAt_optionNotices kind value, fun other => ?otherControls, fun other => ?choices,
    fun key hne => ?otherValues, rfl, rfl⟩
  case stored =>
      show (b.editor.content.set kind.contentKey value).get? kind.contentKey = some value
      simp [ContentStore.set, ContentStore.get?, ContentValues.get?_put]
  case otherControls => exact (b.editor.controls.get?_select kind value other).1
  case choices => exact (b.editor.controls.get?_select kind value other).2
  case otherValues => exact Editor.get?_store_of_ne _ value hne

/-- Selections keep the control, the store and the server together. In every run, in which the host
may select values behind the back of the bridge as well, each control shows one of the values that
it offers. A selection is accepted if and only if there is a control that offers the value. Then the
value is shown, stored and sent, each once, and nothing else happens; otherwise nothing happens. -/
theorem selected_of_run (e : Editor) (clientName : String) {as : List Action}
    (made : e.controls.IsMade)
    (replaced : ∀ e', .direct (.replace e') ∈ as → e'.controls.IsMade)
    (reached : (ofEditor e clientName).run as = b) :
    (∀ kind c, b.editor.controls.get? kind = some c → c.IsSettled)
      ∧ ∀ kind value,
        ((b.selectOption kind value).1 = true ↔ b.editor.controls.Offers kind value)
        ∧ ((b.selectOption kind value).1 = true →
          Selected kind value b (b.selectOption kind value).2)
        ∧ ((b.selectOption kind value).1 = false →
          (b.selectOption kind value).2 = b
            ∧ (b.editor.controls.select kind value).2 = b.editor.controls) := by
  have hmade : b.editor.controls.IsMade := by
    rw [← reached]
    exact isMade_run as made replaced
  refine ⟨fun kind c hc => (hmade kind c hc).settled, fun kind value => ?_⟩
  rw [← PageControls.accepted_iff]
  by_cases accepted : (b.editor.controls.select kind value).1 = some true
  · have htrue : (b.selectOption kind value).1 = true := by
      rw [selectOption_of_accepted accepted]
    rw [htrue]
    exact ⟨⟨fun _ => accepted, fun _ => rfl⟩, fun _ => selected_selectOption accepted,
      fun hfalse => by cases hfalse⟩
  · have hselect := selectOption_of_rejected accepted
    rw [hselect]
    exact ⟨⟨fun hfalse => (by cases hfalse), fun h => absurd h accepted⟩,
      fun hfalse => (by cases hfalse),
      fun _ => ⟨rfl, b.editor.controls.select_of_not_accepted kind value accepted⟩⟩

/-- A culture has been selected behind the back of the bridge, and a new schema waits. Another
culture is selected then, which the server is told at once, and nothing of the schema. -/
theorem selected_of_run_waiting :
    ∃ as b, (ofEditor .sample "page").run as = b
      ∧ (Editor.sample.controls.IsMade
        ∧ ∀ e', .direct (.replace e') ∈ as → e'.controls.IsMade)
      ∧ b.editor.controls.selected? .culture = some "en"
      ∧ b.editor.workspace.hasPendingChanges = true
      ∧ (b.selectOption .culture "de").1 = true
      ∧ (b.selectOption .culture "de").2.editor.controls.selected? .culture = some "de"
      ∧ (b.selectOption .culture "de").2.editor.workspace.hasPendingChanges = true
      ∧ (b.selectOption .culture "de").2.lines.framesAt 0 = b.lines.framesAt 0
        ++ [(ClientNotification.optionChanged .culture "de" "file:///main.ov").frame]
      ∧ (b.selectOption .language "Java").1 = false
      ∧ (b.selectOption .language "Java").2 = b := by
  generalize has : Action.welcome 1 ++ [.direct (.select .culture "en"),
    .direct (.setText .schema "b: 2")] = as
  generalize hb : (ofEditor .sample "page").run as = b
  have hmade : Editor.sample.controls.IsMade := PageControls.isMade_ofValues ["de", "en"] []
  have hreplaced : ∀ e', .direct (.replace e') ∈ as → e'.controls.IsMade := by
    intro e' he'
    rw [← has] at he'
    simp [Action.welcome] at he'
  have hselected : b.editor.controls.selected? .culture = some "en" := by
    rw [← hb, ← has]
    cbv
  have hwaiting : b.editor.workspace.hasPendingChanges = true := by
    rw [← hb, ← has]
    cbv
  have hheard : b.isHeardAt 0 = true := by
    rw [← hb, ← has]
    cbv
  have hprimary : b.editor.workspace.uri .primary = some "file:///main.ov" := by
    rw [← hb, ← has]
    cbv
  have haccepted : (b.selectOption .culture "de").1 = true := by
    rw [← hb, ← has]
    cbv
  have hrejected : (b.selectOption .language "Java").1 = false := by
    rw [← hb, ← has]
    cbv
  obtain ⟨-, hselect⟩ := selected_of_run .sample "page" hmade hreplaced hb
  have hafter := (hselect .culture "de").2.1 haccepted
  have hsent := hafter.sent 0
  rw [hheard, hprimary] at hsent
  refine ⟨as, b, hb, ⟨hmade, hreplaced⟩, hselected, hwaiting, haccepted, hafter.shown, ?_, hsent,
    hrejected, ((hselect .language "Java").2.2 hrejected).1⟩
  rw [hafter.workspace]
  exact hwaiting

end Bridge

end SurfaceBridge
