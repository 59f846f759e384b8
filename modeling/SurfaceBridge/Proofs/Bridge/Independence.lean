import SurfaceBridge.Proofs.Bridge.Handles
import SurfaceBridge.Proofs.Bridge.Report

set_option autoImplicit false

/-! # What the content store depends on

The server has a say in much of the editor: in the output and the changes of it that wait, in
the classifiers and the languages, and, because a new session reflects what is stored, in the
selections of the controls. `SameSources e e'` says that two editors differ in nothing else. The
host gets the same values into the store from both, and nothing that the server does leads out of
this relation, so the store is the same in any two runs in which the host does the same.
-/

namespace SurfaceBridge

namespace PageControls

/-- The choices that the control of an option offers, if there is one. -/
def choices? (kind : OptionKind) (p : PageControls) : Option (List Choice) :=
  (p.get? kind).map SelectControl.choices

variable (p : PageControls) (kind : OptionKind) (value : String)

/-- Selecting changes no choices. -/
theorem choices?_select (other : OptionKind) :
    (p.select kind value).2.choices? other = p.choices? other := by
  unfold select
  cases hc : p.get? kind with
  | none => rfl
  | some c =>
      have hkeep : (c.select value).2.choices = c.choices := by
        unfold SelectControl.select
        split <;> rfl
      by_cases ho : other = kind
      · subst ho
        simp [choices?, get?_put, hc, hkeep]
      · simp [choices?, get?_put, ho]

/-- Whether a value is accepted is a matter of the choices. -/
theorem select_fst :
    (p.select kind value).1
      = (p.choices? kind).map
        fun choices => (choices.findIdx? fun c => c.value = value).isSome := by
  unfold select choices?
  cases p.get? kind with
  | none => rfl
  | some c =>
      simp only [SelectControl.select, SelectControl.find?, Option.map_some]
      cases c.choices.findIdx? fun c => c.value = value <;> rfl

/-- What has been accepted is selected. -/
theorem selected?_select (accepted : (p.select kind value).1 = some true) :
    (p.select kind value).2.selected? kind = some value := by
  unfold select at accepted ⊢
  cases hc : p.get? kind with
  | none =>
      rw [hc] at accepted
      cases accepted
  | some c =>
      rw [hc] at accepted
      cases hf : c.find? value with
      | none =>
          simp only [SelectControl.select, hf] at accepted
          cases accepted
      | some position =>
          obtain ⟨hlt, hvalue, -⟩ := List.findIdx?_eq_some_iff_getElem.1 hf
          have hvalue : c.choices[position].value = value := of_decide_eq_true hvalue
          simp [SelectControl.select, hf, selected?, get?_put, SelectControl.selected?,
            List.getElem?_eq_getElem hlt, hvalue]

end PageControls

namespace Workspace

theorem isOpen_eq (w : Workspace) (s : Surface) : w.isOpen s = (w.label s).isSome := by
  simp [isOpen, label]

theorem isOpen_setText {w w' : Workspace} {s : Surface} {text : String} {change : Change}
    (h : w.setText s text = .ok (change, w')) (t : Surface) : w'.isOpen t = w.isOpen t := by
  rw [isOpen_eq, isOpen_eq, (setText_eq_ok h).1 t]

theorem isOpen_setLanguage {w w' : Workspace} {s : Surface} {language : String}
    (h : w.setLanguage s language = .ok w') (t : Surface) : w'.isOpen t = w.isOpen t := by
  unfold setLanguage at h
  cases hd : w.document s with
  | none =>
      rw [hd] at h
      cases h
  | some d =>
      rw [hd] at h
      cases h
      have hget : w.documents.get s = some d := hd
      unfold isOpen document
      rw [Panes.get_set]
      by_cases ht : t = s
      · subst ht
        rw [if_pos rfl, hget]
        rfl
      · rw [if_neg ht]

end Workspace

namespace Editor

/-! ## Sources -/

/-- Two editors that differ only in what the server has a say in. -/
structure SameSources (e e' : Editor) : Prop where
  documents : ∀ s, s ≠ .output → e'.workspace.document s = e.workspace.document s
  output : e'.workspace.isOpen .output = e.workspace.isOpen .output
  changes : (e'.workspace.changes.filter fun c => c.surface ≠ .output)
    = e.workspace.changes.filter fun c => c.surface ≠ .output
  content : e'.content = e.content
  choices : ∀ kind, e'.controls.choices? kind = e.controls.choices? kind

namespace SameSources

variable {e e' e'' : Editor}

theorem refl (e : Editor) : SameSources e e := ⟨fun _ _ => rfl, rfl, rfl, rfl, fun _ => rfl⟩

theorem symm (h : SameSources e e') : SameSources e' e :=
  ⟨fun s hs => (h.documents s hs).symm, h.output.symm, h.changes.symm, h.content.symm,
    fun kind => (h.choices kind).symm⟩

theorem trans (h : SameSources e e') (k : SameSources e' e'') : SameSources e e'' :=
  ⟨fun s hs => (k.documents s hs).trans (h.documents s hs), k.output.trans h.output,
    k.changes.trans h.changes, k.content.trans h.content,
    fun kind => (k.choices kind).trans (h.choices kind)⟩

/-- The two editors may be given documents that differ if they are those of the output. -/
theorem put (h : SameSources e e') (s : Surface) (d d' : Option Document) (cs cs' : List Change)
    (same : s ≠ .output → d' = d) (isSome : d'.isSome = d.isSome)
    (changes : (cs'.filter fun c => c.surface ≠ .output) = cs.filter fun c => c.surface ≠ .output) :
    SameSources
      { e with workspace := { e.workspace with
          documents := e.workspace.documents.set s d
          changes := e.workspace.changes ++ cs } }
      { e' with workspace := { e'.workspace with
          documents := e'.workspace.documents.set s d'
          changes := e'.workspace.changes ++ cs' } } where
  documents t ht := by
    show (e'.workspace.documents.set s d').get t = (e.workspace.documents.set s d).get t
    rw [Panes.get_set, Panes.get_set]
    by_cases hts : t = s
    · rw [if_pos hts, if_pos hts, same (hts ▸ ht)]
    · rw [if_neg hts, if_neg hts]
      exact h.documents t ht
  output := by
    show ((e'.workspace.documents.set s d').get .output).isSome
      = ((e.workspace.documents.set s d).get .output).isSome
    rw [Panes.get_set, Panes.get_set]
    by_cases hs : Surface.output = s
    · rw [if_pos hs, if_pos hs, isSome]
    · rw [if_neg hs, if_neg hs]
      exact h.output
  changes := by
    rw [List.filter_append, List.filter_append, h.changes, changes]
  content := h.content
  choices := h.choices

/-! ## What the host does -/

theorem setText (h : SameSources e e') (s : Surface) (text : String) :
    (∃ err, e.workspace.setText s text = .error err ∧ e'.workspace.setText s text = .error err)
      ∨ ∃ c w c' w', e.workspace.setText s text = .ok (c, w)
        ∧ e'.workspace.setText s text = .ok (c', w')
        ∧ SameSources { e with workspace := w } { e' with workspace := w' } := by
  unfold Workspace.setText
  by_cases hs : s = .output
  · subst hs
    have hopen := h.output
    unfold Workspace.isOpen at hopen
    cases hd : e.workspace.document .output <;> cases hd' : e'.workspace.document .output <;>
      rw [hd, hd'] at hopen
    · exact Or.inl ⟨_, rfl, rfl⟩
    · cases hopen
    · cases hopen
    -- both change, in their own ways, but the store will not hear of it
    · exact Or.inr ⟨_, _, _, _, rfl, rfl, h.put .output _ _ _ _ (by simp) rfl rfl⟩
  · rw [h.documents s hs]
    cases e.workspace.document s with
    | none => exact Or.inl ⟨_, rfl, rfl⟩
    | some d => exact Or.inr ⟨_, _, _, _, rfl, rfl, h.put s _ _ _ _ (fun _ => rfl) rfl rfl⟩

theorem setLanguage (h : SameSources e e') (s : Surface) (language : String) :
    SameSources { e with workspace := e.workspace.relabelled s language }
      { e' with workspace := e'.workspace.relabelled s language } := by
  have relabel : ∀ {d d' : Document}, (s ≠ .output → d' = d) →
      SameSources
        { e with workspace := { e.workspace with
            documents := e.workspace.documents.set s
              (some { d with language := language }) } }
        { e' with workspace := { e'.workspace with
            documents := e'.workspace.documents.set s
              (some { d' with language := language }) } } := by
    intro d d' same
    have hput := h.put s (some { d with language := language })
      (some { d' with language := language }) [] []
      (fun hs => by rw [same hs]) rfl rfl
    rwa [List.append_nil, List.append_nil] at hput
  unfold Workspace.relabelled Workspace.setLanguage
  by_cases hs : s = .output
  · subst hs
    have hopen := h.output
    unfold Workspace.isOpen at hopen
    cases hd : e.workspace.document .output <;> cases hd' : e'.workspace.document .output <;>
      rw [hd, hd'] at hopen
    · exact h
    · cases hopen
    · cases hopen
    · exact relabel (by simp)
  · rw [h.documents s hs]
    cases e.workspace.document s with
    | none => exact h
    | some d => exact relabel fun _ => rfl

theorem store (h : SameSources e e') (key : ContentKey) (value : String) :
    SameSources (e.store key value) (e'.store key value) :=
  ⟨h.documents, h.output, h.changes, congrArg (ContentStore.set key value) h.content, h.choices⟩

theorem select (h : SameSources e e') (kind : OptionKind) (value : String) :
    SameSources { e with controls := (e.controls.select kind value).2 }
      { e' with controls := (e'.controls.select kind value).2 } := by
  refine ⟨h.documents, h.output, h.changes, h.content, fun other => ?_⟩
  rw [PageControls.choices?_select, PageControls.choices?_select]
  exact h.choices other

theorem act (h : SameSources e e') (a : EditorAction) : SameSources (e.act a) (e'.act a) := by
  cases a with
  | setText s text =>
      show SameSources { e with workspace := e.workspace.typed s text }
        { e' with workspace := e'.workspace.typed s text }
      unfold Workspace.typed
      rcases h.setText s text with ⟨err, he, he'⟩ | ⟨c, w, c', w', he, he', hw⟩
      · rw [he, he']
        exact h
      · rw [he, he']
        exact hw
  | openDocument s uri language text =>
      have hput := h.put s (some ⟨uri, language, text, 1⟩) (some ⟨uri, language, text, 1⟩) [] []
        (fun _ => rfl) rfl rfl
      rwa [List.append_nil, List.append_nil] at hput
  | close s =>
      have hput := h.put s none none [] [] (fun _ => rfl) rfl rfl
      rwa [List.append_nil, List.append_nil] at hput
  | setLanguage s language => exact h.setLanguage s language
  | takeChanges => exact ⟨h.documents, h.output, rfl, h.content, h.choices⟩
  | setClassifier language c => exact ⟨h.documents, h.output, h.changes, h.content, h.choices⟩
  | setLanguages r => exact ⟨h.documents, h.output, h.changes, h.content, h.choices⟩
  | store key value => exact h.store key value
  | remove key =>
      refine ⟨h.documents, h.output, h.changes, ?_, h.choices⟩
      exact congrArg (fun c => (ContentStore.remove key c).2) h.content
  | select kind value => exact h.select kind value
  | replace d => exact ⟨fun _ _ => rfl, rfl, rfl, rfl, fun _ => rfl⟩

/-! ## Dispatching -/

theorem absorb (h : SameSources e e') (c : Change) : SameSources (e.absorb c) (e'.absorb c) := by
  unfold Editor.absorb
  split
  · exact h
  · split
    · exact h.store .schema c.text
    · split
      · exact h.store .code c.text
      · exact h

theorem foldl_absorb (cs : List Change) (h : SameSources e e') :
    SameSources (cs.foldl Editor.absorb e) (cs.foldl Editor.absorb e') := by
  induction cs generalizing e e' with
  | nil => exact h
  | cons c cs ih => exact ih (h.absorb c)

theorem absorbed (h : SameSources e e') : SameSources e.absorbed e'.absorbed := by
  have hsettled : SameSources e.settled e'.settled :=
    ⟨h.documents, h.output, rfl, h.content, h.choices⟩
  rw [Editor.absorbed, Editor.absorbed, ← Editor.foldl_absorb_filter e.settled,
    ← Editor.foldl_absorb_filter e'.settled, h.changes]
  exact hsettled.foldl_absorb _

/-! ## Calls -/

/-- Reflecting what is stored changes selections only. -/
theorem reflectOption (e : Editor) (kind : OptionKind) : SameSources e (e.reflectOption kind) := by
  unfold Editor.reflectOption
  cases e.content.get? kind.contentKey with
  | none => exact refl e
  | some value =>
      refine ⟨fun _ _ => rfl, rfl, rfl, rfl, fun other => ?_⟩
      exact PageControls.choices?_select e.controls kind value other

theorem reflectOptions (e : Editor) : SameSources e e.reflectOptions :=
  (reflectOption e .culture).trans (reflectOption (e.reflectOption .culture) .language)

/-- A value that a user has chosen is stored as it is. -/
theorem called_selectOption (e : Editor) (kind : OptionKind) (value : String) :
    (e.called (.selectOption kind value)).1
      = if (e.controls.select kind value).1 = some true then
          ({ e with controls := (e.controls.select kind value).2 }).store kind.contentKey value
        else e := by
  have hselected := e.controls.selected?_select kind value
  simp only [Editor.called]
  rcases hs : e.controls.select kind value with ⟨accepted, controls⟩
  rw [hs] at hselected
  rcases accepted with _ | _ | _
  · rfl
  · rfl
  · simp [Editor.optionCalled, hselected rfl]

/-- A call of the host comes to the same, unless it stores what happens to be selected. -/
theorem called (h : SameSources e e') {a : Action} (call : a.isCall = true)
    (told : ∀ kind, a ≠ .optionChanged kind) : SameSources (e.called a).1 (e'.called a).1 := by
  cases a with
  | edit s text =>
      rcases h.setText s text with ⟨err, he, he'⟩ | ⟨c, w, c', w', he, he', hw⟩
      · simp only [Editor.called, he, he']
        exact h
      · simp only [Editor.called, he, he']
        exact hw.absorbed
  | selectOption kind value =>
      have hfst : (e'.controls.select kind value).1 = (e.controls.select kind value).1 := by
        rw [PageControls.select_fst, PageControls.select_fst, h.choices kind]
      rw [called_selectOption, called_selectOption, hfst]
      split
      · exact (h.select kind value).store kind.contentKey value
      · exact h
  | optionChanged kind => exact absurd rfl (told kind)
  | sendSchemaState => exact h
  | sendOptionState => exact (reflectOptions e).symm.trans (h.trans (reflectOptions e'))
  | direct a => exact h.act a
  | _ => cases call

end SameSources

/-! ## What the server does -/

/-- Applying a notification changes the workspace only, and neither opens nor closes a surface. -/
theorem applyNotification_eq_ok {n : ServerNotification} {e e' : Editor}
    (h : e.applyNotification n = .ok e') :
    e' = { e with workspace := e'.workspace }
      ∧ ∀ s, e'.workspace.isOpen s = e.workspace.isOpen s := by
  cases applied_of_ok h with
  | shown typed relabelled =>
      refine ⟨rfl, fun s => ?_⟩
      rw [← Workspace.isOpen_setText typed s]
      exact Workspace.isOpen_setLanguage relabelled s
  | _ => exact ⟨rfl, fun _ => rfl⟩

theorem sameSources_applyNotification {n : ServerNotification} {e e' : Editor}
    (h : e.applyNotification n = .ok e') : SameSources e e' := by
  obtain ⟨hworkspace, hopen⟩ := applyNotification_eq_ok h
  obtain ⟨hdocuments, ⟨cs, hcs, hchanges⟩, -⟩ := aside_applyNotification h
  have hnone : (cs.filter fun c => c.surface ≠ .output) = [] :=
    List.filter_eq_nil_iff.2 (by simpa using hcs)
  refine ⟨hdocuments, hopen .output, ?_, ?_, fun kind => ?_⟩
  · rw [hchanges, List.filter_append, hnone, List.append_nil]
  · rw [hworkspace]
  · rw [hworkspace]

end Editor

namespace Bridge

open Editor (SameSources)

variable {limit limit' : Option Nat} {b b' after : Bridge} {e : Event}
variable {result : Except BridgeError (Option BridgeEvent)}

theorem sameSources_handling (h : Handling limit b e result after) :
    SameSources b.editor after.editor := by
  cases h with
  | started ok =>
      rw [started_eq_told]
      exact SameSources.reflectOptions b.editor
  | applied active done => exact Editor.sameSources_applyNotification done
  | _ => exact .refl _

/-- To the store, a poll is as good as its dispatch. -/
theorem sameSources_polling (h : Polling limit b result after) :
    SameSources b.editor.absorbed after.editor := by
  rw [← editor_dispatch]
  cases h with
  | idle => exact .refl _
  | handled next handling =>
      rw [← (nextEvent_keeps next).1]
      exact sameSources_handling handling

theorem sameSources_poll (h : SameSources b.editor b'.editor) :
    SameSources (b.poll limit).2.editor (b'.poll limit').2.editor :=
  (sameSources_polling (polling_poll limit b)).symm.trans
    (h.absorbed.trans (sameSources_polling (polling_poll limit' b')))

/-! ## Two runs -/

/-- Two runs in which the host does the same. What the transport does, and how long it can keep a
poll waiting, may differ, and so may what a change of the languages comes to, since the server
changes them as well. The host does not store what happens to be selected in a control. -/
inductive SameCalls : List Action → List Action → Prop where
  | nil : SameCalls [] []
  | transport {a : Action} {as as' : List Action} (transport : a.isTransport = true)
      (others : SameCalls as as') : SameCalls (a :: as) as'
  | transport' {a : Action} {as as' : List Action} (transport : a.isTransport = true)
      (others : SameCalls as as') : SameCalls as (a :: as')
  | poll {limit limit' : Option Nat} {as as' : List Action} (others : SameCalls as as') :
      SameCalls (.poll limit :: as) (.poll limit' :: as')
  | languages {r r' : LanguageRegistry} {as as' : List Action} (others : SameCalls as as') :
      SameCalls (.direct (.setLanguages r) :: as) (.direct (.setLanguages r') :: as')
  | call {a : Action} {as as' : List Action} (call : a.isCall = true)
      (told : ∀ kind, a ≠ .optionChanged kind) (others : SameCalls as as') :
      SameCalls (a :: as) (a :: as')

/-- The content store after each thing that the host does in a run. -/
def contentsIn : List Action → Bridge → List ContentStore
  | [], _ => []
  | a :: as, b =>
    (if a.isTransport then [] else [(b.act a).editor.content]) ++ contentsIn as (b.act a)

theorem contentsIn_transport {a : Action} (transport : a.isTransport = true) (as : List Action)
    (b : Bridge) : b.contentsIn (a :: as) = (b.act a).contentsIn as := by
  simp [contentsIn, transport]

theorem contentsIn_host {a : Action} (host : a.isTransport = false) (as : List Action)
    (b : Bridge) :
    b.contentsIn (a :: as) = (b.act a).editor.content :: (b.act a).contentsIn as := by
  simp [contentsIn, host]

theorem isTransport_of_isCall {a : Action} (h : a.isCall = true) : a.isTransport = false := by
  cases a <;> first | rfl | cases h

theorem contentsIn_of_sameSources {as as' : List Action} (same : SameCalls as as')
    (h : SameSources b.editor b'.editor) : b'.contentsIn as' = b.contentsIn as := by
  induction same generalizing b b' with
  | nil => rfl
  | @transport a as as' transport others ih =>
      rw [contentsIn_transport transport]
      refine ih ?_
      rw [(act_of_isTransport transport b).1]
      exact h
  | @transport' a as as' transport others ih =>
      rw [contentsIn_transport transport]
      refine ih ?_
      rw [(act_of_isTransport transport b').1]
      exact h
  | @poll limit limit' as as' others ih =>
      have hact : SameSources (b.act (.poll limit)).editor (b'.act (.poll limit')).editor :=
        sameSources_poll h
      rw [contentsIn_host rfl, contentsIn_host rfl, ih hact, hact.content]
  | @languages r r' as as' others ih =>
      have hact : SameSources (b.act (.direct (.setLanguages r))).editor
          (b'.act (.direct (.setLanguages r'))).editor :=
        ⟨h.documents, h.output, h.changes, h.content, h.choices⟩
      rw [contentsIn_host rfl, contentsIn_host rfl, ih hact, hact.content]
  | @call a as as' call told others ih =>
      have hact : SameSources (b.act a).editor (b'.act a).editor := by
        rw [act_of_isCall call, act_of_isCall call]
        exact h.called call told
      have hhost := isTransport_of_isCall call
      rw [contentsIn_host hhost, contentsIn_host hhost, ih hact, hact.content]

/-- From the same editor, any two runs in which the host does the same lead to the same values,
the same revision and the same calls of subscribers after each thing that the host does, whatever
the transport and the servers do. -/
theorem contents_of_runs {as as' : List Action} (context : b'.editor = b.editor)
    (same : SameCalls as as') : b'.contentsIn as' = b.contentsIn as := by
  refine contentsIn_of_sameSources same ?_
  rw [context]
  exact .refl _

/-- A schema that is typed in the first run while a server is there to be told, and in the second
without one. -/
theorem contents_of_runs_offline :
    ∃ served offline, SameCalls served offline
      ∧ served = Action.welcome 1 ++ [.edit .schema "b: 2", .selectOption .culture "en"]
      ∧ offline = [.poll none, .edit .schema "b: 2", .selectOption .culture "en"]
      ∧ (ofEditor .sample "page").contentsIn offline
        = (ofEditor .sample "page").contentsIn served := by
  have hsame : SameCalls
      (Action.welcome 1 ++ [.edit .schema "b: 2", .selectOption .culture "en"])
      [.poll none, .edit .schema "b: 2", .selectOption .culture "en"] := by
    refine .transport rfl (.transport rfl (.poll ?_))
    exact .call rfl (by simp) (.call rfl (by simp) .nil)
  exact ⟨_, _, hsame, rfl, rfl, contents_of_runs rfl hsame⟩

end Bridge

end SurfaceBridge
