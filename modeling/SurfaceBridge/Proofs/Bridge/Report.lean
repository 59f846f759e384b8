import SurfaceBridge.Proofs.Bridge.Run

set_option autoImplicit false

/-! # What the reports add up to

Of several notifications with one method the last one counts. `Reported e fs` says that the
frames `fs`, together with what will be sent for the changes that wait, leave the server with the
schema and the options of the editor `e`. Each thing that the host or the server can do to the
editor keeps this, if what is sent for it is added to the frames.

For this the primary surface has to stay in the code language and the schema surface in the
schema language, because changes are dispatched by their language.
-/

namespace SurfaceBridge

open Rpc (Frame)

/-! ## Last notifications -/

/-- Whether a frame is a notification with a method. -/
def Rpc.Frame.isNotice (method : String) : Frame → Bool
  | .notification m _ => m = method
  | _ => false

/-- The last notification with a method. -/
def lastNotice (method : String) (fs : List Frame) : Option Frame :=
  (fs.filter (Frame.isNotice method)).getLast?

/-- The method for the schema. -/
def schemaMethod : String := "ov/schemaChanged"

/-- The method for an option. -/
def OptionKind.method : OptionKind → String
  | .culture => "ov/cultureChanged"
  | .language => "ov/languageChanged"

/-- The frames of some notifications. -/
def frames (ns : List ClientNotification) : List Frame := ns.map ClientNotification.frame

@[simp] theorem frames_nil : frames [] = [] := rfl

theorem frames_append (ms ns : List ClientNotification) :
    frames (ms ++ ns) = frames ms ++ frames ns := List.map_append

variable {m : String} {fs gs : List Frame}

theorem lastNotice_append : lastNotice m (fs ++ gs) = (lastNotice m gs).or (lastNotice m fs) := by
  rw [lastNotice, List.filter_append, List.getLast?_append]
  rfl

theorem lastNotice_eq_none (h : ∀ f ∈ fs, f.isNotice m = false) : lastNotice m fs = none := by
  rw [lastNotice, List.filter_eq_nil_iff.2 (by simpa using h)]
  rfl

theorem isNotice_of_lastNotice (h : lastNotice m fs = none) : ∀ f ∈ fs, f.isNotice m = false := by
  rw [lastNotice, List.getLast?_eq_none_iff, List.filter_eq_nil_iff] at h
  simpa using h

theorem lastNotice_singleton (f : Frame) :
    lastNotice m [f] = if f.isNotice m then some f else none := by
  unfold lastNotice
  by_cases h : f.isNotice m = true <;> simp [h]

theorem isNotice_of_isAnswer {f : Frame} (h : f.IsAnswer) (m : String) : f.isNotice m = false := by
  obtain ⟨id, method, params, rfl⟩ := h
  unfold Frame.answer
  split
  · rfl
  · split <;> rfl

theorem isNotice_schemaChanged (text uri m : String) :
    (ClientNotification.schemaChanged text uri).frame.isNotice m = decide (schemaMethod = m) := rfl

theorem isNotice_optionChanged (kind : OptionKind) (value uri m : String) :
    (ClientNotification.optionChanged kind value uri).frame.isNotice m
      = decide (kind.method = m) := by
  cases kind <;> rfl

theorem schemaMethod_ne (kind : OptionKind) : schemaMethod ≠ kind.method := by
  cases kind <;> decide

theorem OptionKind.method_injective {kind other : OptionKind} (h : kind.method = other.method) :
    kind = other := by
  revert h
  cases kind <;> cases other <;> decide

namespace Editor

/-! ## Reports -/

/-- The frame that reports the schema. -/
def schemaReport (e : Editor) : Option Frame :=
  match e.primaryUri, e.workspace.text .schema with
  | some uri, some text => some (ClientNotification.schemaChanged text uri).frame
  | _, _ => none

/-- The frame that reports an option. -/
def optionReport (kind : OptionKind) (e : Editor) : Option Frame :=
  match e.primaryUri, e.optionValue kind with
  | some uri, some value => some (ClientNotification.optionChanged kind value uri).frame
  | _, _ => none

variable (e : Editor) (kind : OptionKind)

theorem lastNotice_schemaNotices (text : String) :
    lastNotice kind.method (frames (e.schemaNotices text)) = none := by
  unfold schemaNotices
  cases e.primaryUri with
  | none => rfl
  | some uri => simp [frames, lastNotice_singleton, isNotice_schemaChanged, schemaMethod_ne kind]

theorem lastNotice_schemaStateNotices :
    lastNotice schemaMethod (frames e.schemaStateNotices) = e.schemaReport
      ∧ lastNotice kind.method (frames e.schemaStateNotices) = none := by
  unfold schemaStateNotices schemaReport
  cases e.workspace.text .schema with
  | none => cases e.primaryUri <;> exact ⟨rfl, rfl⟩
  | some text =>
      refine ⟨?_, lastNotice_schemaNotices e kind text⟩
      unfold schemaNotices
      cases e.primaryUri with
      | none => rfl
      | some uri => simp [frames, lastNotice_singleton, isNotice_schemaChanged]

theorem lastNotice_optionNotices (value m : String) :
    lastNotice m (frames (e.optionNotices kind value))
      = if kind.method = m then
          e.primaryUri.map fun uri => (ClientNotification.optionChanged kind value uri).frame
        else none := by
  unfold optionNotices
  cases e.primaryUri with
  | none => simp [frames, lastNotice]
  | some uri => simp [frames, lastNotice_singleton, isNotice_optionChanged]

theorem lastNotice_optionValueNotices (m : String) :
    lastNotice m (frames (e.optionValueNotices kind))
      = if kind.method = m then e.optionReport kind else none := by
  unfold optionValueNotices optionReport
  cases e.optionValue kind with
  | none => cases e.primaryUri <;> simp [frames, lastNotice]
  | some value =>
      dsimp only
      rw [lastNotice_optionNotices]
      cases e.primaryUri <;> rfl

theorem lastNotice_optionStateNotices :
    lastNotice schemaMethod (frames e.optionStateNotices) = none
      ∧ lastNotice kind.method (frames e.optionStateNotices) = e.optionReport kind := by
  have hstate : frames e.optionStateNotices
      = frames (e.optionValueNotices .culture) ++ frames (e.optionValueNotices .language) := by
    simp [optionStateNotices, OptionKind.all, frames]
  rw [hstate, lastNotice_append, lastNotice_append, lastNotice_optionValueNotices,
    lastNotice_optionValueNotices, lastNotice_optionValueNotices, lastNotice_optionValueNotices]
  refine ⟨by simp [Ne.symm (schemaMethod_ne _)], ?_⟩
  cases kind
  · simp [OptionKind.method]
  · simp [OptionKind.method]

/-- What is sent for changes is about the schema. -/
theorem lastNotice_waitingNotices :
    lastNotice kind.method (frames e.waitingNotices) = none := by
  unfold waitingNotices
  induction e.workspace.changes with
  | nil => rfl
  | cons c changes ih =>
      rw [List.flatMap_cons, frames_append, lastNotice_append, ih, Option.none_or]
      unfold changeNotices
      split
      · rfl
      · split
        · exact lastNotice_schemaNotices e kind c.text
        · rfl

end Editor

/-! ## Labels -/

/-- The address and the language of the document of a surface. -/
def Workspace.label (s : Surface) (w : Workspace) : Option (String × String) :=
  (w.document s).map fun d => (d.uri, d.language)

namespace Editor

/-- Two editors whose primary and schema surfaces have the same addresses and languages. -/
def SameLabels (e e' : Editor) : Prop :=
  ∀ s, s ≠ .output → e'.workspace.label s = e.workspace.label s

theorem SameLabels.refl (e : Editor) : SameLabels e e := fun _ _ => rfl

theorem SameLabels.trans {e e' e'' : Editor} (h : SameLabels e e') (k : SameLabels e' e'') :
    SameLabels e e'' := fun s hs => (k s hs).trans (h s hs)

theorem SameLabels.of_workspace {e e' : Editor} (h : e'.workspace = e.workspace) :
    SameLabels e e' := fun s _ => by rw [h]

theorem primaryUri_eq (e : Editor) : e.primaryUri = (e.workspace.label .primary).map Prod.fst := by
  unfold primaryUri Workspace.uri Workspace.label
  rw [Option.map_map]
  rfl

theorem SameLabels.primaryUri {e e' : Editor} (h : SameLabels e e') :
    e'.primaryUri = e.primaryUri := by
  rw [primaryUri_eq, primaryUri_eq, h .primary (by decide)]

end Editor

namespace Workspace

variable {w w' : Workspace} {s : Surface} {text : String} {change : Change}

/-- What replacing a text does: no address or language changes, the surface has the new text, and
the change waits with the address and the language of the surface. -/
theorem setText_eq_ok (h : w.setText s text = .ok (change, w')) :
    (∀ t, w'.label t = w.label t) ∧ (∀ t, t ≠ s → w'.document t = w.document t)
      ∧ w'.text s = some text
      ∧ change.surface = s ∧ change.text = text
      ∧ w.label s = some (change.uri, change.language)
      ∧ w'.changes = w.changes ++ [change] := by
  unfold setText at h
  cases hd : w.document s with
  | none =>
      rw [hd] at h
      cases h
  | some d =>
      rw [hd] at h
      cases h
      have hget : w.documents.get s = some d := hd
      refine ⟨fun t => ?_, fun t ht => ?_, ?_, rfl, rfl, ?_, rfl⟩
      · unfold label document
        rw [Panes.get_set]
        by_cases ht : t = s
        · subst ht
          rw [if_pos rfl, hget]
          rfl
        · rw [if_neg ht]
      · unfold document
        rw [Panes.get_set, if_neg ht]
      · unfold Workspace.text document
        rw [Panes.get_set, if_pos rfl]
        rfl
      · rw [label, hd]
        rfl

theorem setLanguage_eq_ok {language : String} (h : w.setLanguage .output language = .ok w') :
    (∀ t, t ≠ .output → w'.document t = w.document t) ∧ w'.changes = w.changes := by
  unfold setLanguage at h
  cases hd : w.document .output with
  | none =>
      rw [hd] at h
      cases h
  | some d =>
      rw [hd] at h
      cases h
      refine ⟨fun t ht => ?_, rfl⟩
      unfold document
      rw [Panes.get_set, if_neg ht]

end Workspace

/-- A change of the editor that leaves the primary and the schema surface alone. -/
structure Editor.Aside (e e' : Editor) : Prop where
  documents : ∀ s, s ≠ .output → e'.workspace.document s = e.workspace.document s
  changes : ∃ cs : List Change, (∀ c ∈ cs, c.surface = .output)
    ∧ e'.workspace.changes = e.workspace.changes ++ cs
  option : ∀ kind, e'.optionValue kind = e.optionValue kind

theorem Editor.Aside.sameLabels {e e' : Editor} (h : Aside e e') : e.SameLabels e' := by
  intro s hs
  rw [Workspace.label, Workspace.label, h.documents s hs]

/-! ## Reported editors -/

/-- Changes of the primary and the schema surface have been made in the language that tells what
they are about. -/
def Change.IsLabelled (c : Change) : Prop :=
  (c.surface = .primary → c.language = Language.codeId)
    ∧ (c.surface = .schema → c.language = Language.schemaId)

theorem Change.isLabelled_of_output {c : Change} (h : c.surface = .output) : c.IsLabelled := by
  constructor
  · intro hp
    rw [h] at hp
    cases hp
  · intro hs
    rw [h] at hs
    cases hs

/-- The primary and the schema surface are in the language that tells what they are about. -/
structure Editor.IsLabelled (e : Editor) : Prop where
  primary : ∃ uri, e.workspace.label .primary = some (uri, Language.codeId)
  schema : ∃ uri, e.workspace.label .schema = some (uri, Language.schemaId)

theorem Editor.IsLabelled.of_sameLabels {e e' : Editor} (h : e.IsLabelled)
    (same : e.SameLabels e') : e'.IsLabelled where
  primary := by
    rw [same .primary (by decide)]
    exact h.primary
  schema := by
    rw [same .schema (by decide)]
    exact h.schema

/-- A change is in the language of its surface. -/
theorem Editor.IsLabelled.change {e : Editor} (labels : e.IsLabelled) {s : Surface} {text : String}
    {change : Change} {w : Workspace} (hw : e.workspace.setText s text = .ok (change, w)) :
    change.IsLabelled := by
  obtain ⟨-, -, -, hsurface, -, howner, -⟩ := Workspace.setText_eq_ok hw
  rw [← hsurface] at howner
  constructor
  · intro hp
    obtain ⟨uri, hprimary⟩ := labels.primary
    rw [← hp, howner] at hprimary
    exact congrArg Prod.snd (Option.some.inj hprimary)
  · intro hs
    obtain ⟨uri, hschema⟩ := labels.schema
    rw [← hs, howner] at hschema
    exact congrArg Prod.snd (Option.some.inj hschema)

/-- Nothing is sent for a change that is not of the schema. -/
theorem Editor.changeNotices_eq_nil (e : Editor) {c : Change} (labelled : c.IsLabelled)
    (other : c.surface ≠ .schema) : e.changeNotices c = [] := by
  unfold Editor.changeNotices
  cases hs : c.surface with
  | primary =>
      rw [labelled.1 hs]
      rfl
  | schema => exact absurd hs other
  | output => rfl

theorem Editor.sameLabels_setText {e : Editor} {s : Surface} {text : String} {change : Change}
    {w : Workspace} (h : e.workspace.setText s text = .ok (change, w)) :
    e.SameLabels { e with workspace := w } := fun t _ => (Workspace.setText_eq_ok h).1 t

/-- The frames, with those for the changes that wait behind them, report the state of the editor. -/
structure Reported (e : Editor) (fs : List Frame) : Prop where
  labelled : ∀ c ∈ e.workspace.changes, c.IsLabelled
  schema : lastNotice schemaMethod (fs ++ frames e.waitingNotices) = e.schemaReport
  option : ∀ kind : OptionKind, lastNotice kind.method fs = e.optionReport kind

namespace Reported

open Editor

variable {e e' : Editor} {fs : List Frame}

/-- What is done aside does not count. -/
theorem aside (h : Reported e fs) (ha : Aside e e') : Reported e' fs := by
  have huri := ha.sameLabels.primaryUri
  obtain ⟨hdocuments, ⟨cs, hcs, hchanges⟩, hoption⟩ := ha
  have htext : e'.workspace.text .schema = e.workspace.text .schema := by
    rw [Workspace.text, Workspace.text, hdocuments .schema (by decide)]
  have hnotices : ∀ c, e'.changeNotices c = e.changeNotices c := changeNotices_congr huri
  have hwaiting : e'.waitingNotices = e.waitingNotices := by
    -- changes of the output wait as well, but nothing is sent for them
    have hnone : cs.flatMap e.changeNotices = [] := by
      refine List.flatMap_eq_nil_iff.2 fun c hc => ?_
      rw [changeNotices, if_pos (hcs c hc)]
    rw [waitingNotices, waitingNotices, hchanges, List.flatMap_append, funext hnotices, hnone,
      List.append_nil]
  refine ⟨fun c hc => ?_, ?_, fun kind => ?_⟩
  · rw [hchanges] at hc
    rcases List.mem_append.1 hc with hc | hc
    · exact h.labelled c hc
    · exact Change.isLabelled_of_output (hcs c hc)
  · rw [hwaiting, h.schema, schemaReport, schemaReport, huri, htext]
  · rw [h.option, optionReport, optionReport, huri, hoption]

/-- Answers do not count. -/
theorem answer (h : Reported e fs) {f : Frame} (hf : f.IsAnswer) : Reported e (fs ++ [f]) := by
  have hnone : ∀ m, lastNotice m [f] = none := by
    intro m
    rw [lastNotice_singleton, isNotice_of_isAnswer hf m]
    rfl
  refine ⟨h.labelled, ?_, fun kind => ?_⟩
  · rw [lastNotice_append, lastNotice_append, hnone, Option.none_or, ← lastNotice_append]
    exact h.schema
  · rw [lastNotice_append, hnone, Option.none_or]
    exact h.option kind

/-! ## Calls of the host -/

theorem store_keeps (e : Editor) {key : ContentKey} (value : String) {kind : OptionKind}
    (h : kind.contentKey ≠ key) : (e.store key value).optionValue kind = e.optionValue kind := by
  simp [optionValue, store, ContentStore.set, ContentStore.get?, ContentValues.get?_put, h]

theorem optionValue_absorb (e : Editor) (c : Change) (kind : OptionKind) :
    (e.absorb c).optionValue kind = e.optionValue kind := by
  unfold absorb
  split
  · rfl
  · split
    · exact store_keeps e c.text (by cases kind <;> decide)
    · split
      · exact store_keeps e c.text (by cases kind <;> decide)
      · rfl

theorem optionValue_absorbed (e : Editor) (kind : OptionKind) :
    e.absorbed.optionValue kind = e.optionValue kind := by
  have hfold : ∀ (changes : List Change) (e : Editor),
      (changes.foldl absorb e).optionValue kind = e.optionValue kind := by
    intro changes
    induction changes with
    | nil => exact fun _ => rfl
    | cons c changes ih =>
        intro e
        rw [List.foldl_cons, ih, optionValue_absorb]
  exact hfold e.workspace.changes e.settled

theorem sameLabels_absorbed (e : Editor) : e.SameLabels e.absorbed := by
  intro s _
  rw [absorbed_workspace]
  rfl

/-- Dispatching sends what is due for the changes that wait. -/
theorem absorbed (h : Reported e fs) : Reported e.absorbed (fs ++ frames e.waitingNotices) := by
  have huri := (sameLabels_absorbed e).primaryUri
  have hchanges : e.absorbed.workspace.changes = [] := by
    rw [absorbed_workspace]
    rfl
  have htext : e.absorbed.workspace.text .schema = e.workspace.text .schema := by
    rw [absorbed_workspace]
    rfl
  have hreport : e.absorbed.schemaReport = e.schemaReport := by
    rw [schemaReport, schemaReport, huri, htext]
  have hwaiting : e.absorbed.waitingNotices = [] := by
    rw [waitingNotices, hchanges]
    rfl
  refine ⟨fun c hc => ?_, ?_, fun kind => ?_⟩
  · rw [hchanges] at hc
    cases hc
  · rw [hwaiting, hreport, ← h.schema]
    exact congrArg _ (List.append_nil _)
  · rw [lastNotice_append, lastNotice_waitingNotices, Option.none_or, h.option, optionReport,
      optionReport, huri, optionValue_absorbed]

/-- A text that is replaced will be sent if it is that of the schema. -/
theorem typed (h : Reported e fs) (labels : e.IsLabelled) {s : Surface} {text : String}
    {change : Change} {w : Workspace} (hw : e.workspace.setText s text = .ok (change, w)) :
    Reported { e with workspace := w } fs := by
  have hlabelled := labels.change hw
  have huri := (sameLabels_setText hw).primaryUri
  obtain ⟨-, hdocuments, htext, hsurface, hchange, -, hchanges⟩ := Workspace.setText_eq_ok hw
  have hnotices : ∀ c, ({ e with workspace := w } : Editor).changeNotices c = e.changeNotices c :=
    changeNotices_congr huri
  have hwaiting : ({ e with workspace := w } : Editor).waitingNotices
      = e.waitingNotices ++ e.changeNotices change := by
    rw [waitingNotices, waitingNotices, funext hnotices, hchanges, List.flatMap_append]
    simp
  refine ⟨fun c hc => ?_, ?_, fun kind => ?_⟩
  · rw [hchanges] at hc
    rcases List.mem_append.1 hc with hc | hc
    · exact h.labelled c hc
    · rwa [List.mem_singleton.1 hc]
  · rw [hwaiting]
    by_cases hs : s = .schema
    · subst hs
      -- the change is the last that waits, so its notification is the one that will count
      obtain ⟨uri, hprimary⟩ := labels.primary
      have he : e.primaryUri = some uri := by
        rw [primaryUri_eq, hprimary]
        rfl
      have hlast : e.changeNotices change = [.schemaChanged text uri] := by
        rw [changeNotices, hsurface, hlabelled.2 hsurface, hchange, schemaNotices, he]
        rfl
      have hreport : ({ e with workspace := w } : Editor).schemaReport
          = some (ClientNotification.schemaChanged text uri).frame := by
        rw [schemaReport, huri, he, htext]
      rw [hlast, frames_append, ← List.append_assoc, lastNotice_append, hreport]
      rfl
    · have hschema : w.text .schema = e.workspace.text .schema := by
        rw [Workspace.text, Workspace.text, hdocuments .schema (Ne.symm hs)]
      have hreport : ({ e with workspace := w } : Editor).schemaReport = e.schemaReport := by
        rw [schemaReport, schemaReport, huri, hschema]
      rw [e.changeNotices_eq_nil hlabelled (by rw [hsurface]; exact hs), List.append_nil, hreport]
      exact h.schema
  · rw [h.option, optionReport, optionReport, huri]
    rfl

/-- Storing and sending a value of an option, whatever is selected in its control. -/
theorem stored (h : Reported e fs) (kind : OptionKind) (value : String) {controls : PageControls}
    (others : ∀ other, other ≠ kind → controls.selected? other = e.controls.selected? other) :
    Reported (({ e with controls := controls }).store kind.contentKey value)
      (fs ++ frames ((({ e with controls := controls }).store kind.contentKey value).optionNotices
        kind value)) := by
  generalize he' : ({ e with controls := controls }).store kind.contentKey value = e'
  have hworkspace : e'.workspace = e.workspace := by
    rw [← he']
    rfl
  have huri : e'.primaryUri = e.primaryUri := by
    rw [primaryUri, primaryUri, hworkspace]
  have hwaiting : e'.waitingNotices = e.waitingNotices := by
    rw [← he']
    rfl
  have hreport : e'.schemaReport = e.schemaReport := by
    rw [schemaReport, schemaReport, huri, hworkspace]
  have hvalue : ∀ other : OptionKind, e'.optionValue other
      = if other = kind then some value else e.optionValue other := by
    intro other
    -- the options are stored under different keys
    have hkey : other.contentKey = kind.contentKey ↔ other = kind := by
      cases other <;> cases kind <;> decide
    rw [← he']
    by_cases ho : other = kind
    · simp [optionValue, store, ContentStore.set, ContentStore.get?, ContentValues.get?_put, ho]
    · simp [optionValue, store, ContentStore.set, ContentStore.get?, ContentValues.get?_put, ho,
        hkey, others other ho]
  have hnotice := lastNotice_optionNotices e' kind value
  refine ⟨fun c hc => ?_, ?_, fun other => ?_⟩
  · rw [hworkspace] at hc
    exact h.labelled c hc
  · rw [hwaiting, hreport, lastNotice_append, lastNotice_append, hnotice,
      if_neg (Ne.symm (schemaMethod_ne kind)), Option.none_or, ← lastNotice_append]
    exact h.schema
  · rw [lastNotice_append, hnotice, h.option, optionReport, optionReport, huri, hvalue]
    by_cases ho : other = kind
    · subst ho
      rw [if_pos rfl, if_pos rfl]
      cases e.primaryUri <;> rfl
    · rw [if_neg ho, if_neg fun he => ho (OptionKind.method_injective he.symm), Option.none_or]

theorem optionCalled (h : Reported e fs) (kind : OptionKind) :
    Reported (e.optionCalled kind).1 (fs ++ frames (e.optionCalled kind).2) := by
  unfold Editor.optionCalled
  cases e.controls.selected? kind with
  | none =>
      rw [frames_nil, List.append_nil]
      exact h
  | some value => exact h.stored kind value fun _ _ => rfl

theorem schemaState (h : Reported e fs) : Reported e (fs ++ frames e.schemaStateNotices) := by
  obtain ⟨hlabelled, hschema, hoption⟩ := h
  have hnotice := lastNotice_schemaStateNotices e
  refine ⟨hlabelled, ?_, fun kind => ?_⟩
  · rw [lastNotice_append] at hschema
    rw [lastNotice_append, lastNotice_append, (hnotice .culture).1]
    -- if a change of the schema waits, its notification comes behind this one
    cases hw : lastNotice schemaMethod (frames e.waitingNotices) with
    | none =>
        rw [hw, Option.none_or] at hschema
        rw [Option.none_or, hschema, Option.or_self]
    | some f =>
        rw [hw] at hschema
        exact hschema
  · rw [lastNotice_append, (hnotice kind).2, Option.none_or]
    exact hoption kind

theorem reflectOptions_eq (e : Editor) :
    e.reflectOptions.workspace = e.workspace
      ∧ ∀ kind, e.reflectOptions.optionValue kind = e.optionValue kind := by
  constructor
  · show ((e.reflectOption .culture).reflectOption .language).workspace = _
    rw [reflectOption_workspace, reflectOption_workspace]
  · intro kind
    show ((e.reflectOption .culture).reflectOption .language).optionValue kind = _
    rw [optionValue_reflectOption, optionValue_reflectOption]

theorem reflectOptions (h : Reported e fs) : Reported e.reflectOptions fs := by
  obtain ⟨hworkspace, hvalue⟩ := reflectOptions_eq e
  refine h.aside ⟨fun s _ => by rw [hworkspace], ⟨[], by simp, ?_⟩, hvalue⟩
  rw [hworkspace, List.append_nil]

theorem optionState (h : Reported e fs) :
    Reported e.reflectOptions (fs ++ frames e.optionStateNotices) := by
  obtain ⟨hlabelled, hschema, hoption⟩ := h.reflectOptions
  have hnotice := lastNotice_optionStateNotices e
  refine ⟨hlabelled, ?_, fun kind => ?_⟩
  · rw [lastNotice_append, lastNotice_append, (hnotice .culture).1, Option.none_or,
      ← lastNotice_append]
    exact hschema
  · rw [lastNotice_append, (hnotice kind).2, ← hoption kind, h.option kind, Option.or_self]

/-- What is sent when a session starts reports everything. -/
theorem start (empty : e.workspace.changes = [])
    (fresh : ∀ m, m = schemaMethod ∨ (∃ kind : OptionKind, m = kind.method) →
      lastNotice m fs = none) :
    Reported e.reflectOptions
      (fs ++ frames e.schemaStateNotices ++ frames e.optionStateNotices) := by
  obtain ⟨hworkspace, hvalue⟩ := reflectOptions_eq e
  have huri : e.reflectOptions.primaryUri = e.primaryUri := by
    rw [primaryUri, primaryUri, hworkspace]
  have hwaiting : e.reflectOptions.waitingNotices = [] := by
    rw [waitingNotices, hworkspace, empty]
    rfl
  have hschema := lastNotice_schemaStateNotices e
  have hoption := lastNotice_optionStateNotices e
  refine ⟨fun c hc => ?_, ?_, fun kind => ?_⟩
  · rw [hworkspace, empty] at hc
    cases hc
  · rw [hwaiting, frames_nil, List.append_nil, lastNotice_append,
      (hoption .culture).1, Option.none_or, lastNotice_append, (hschema .culture).1,
      fresh _ (Or.inl rfl), Option.or_none, schemaReport, schemaReport, huri, hworkspace]
  · rw [lastNotice_append, (hoption kind).2, lastNotice_append, (hschema kind).2,
      fresh _ (Or.inr ⟨kind, rfl⟩), Option.or_none, Option.or_none, optionReport, optionReport,
      huri, hvalue]

end Reported

/-! ## What the host and the server do -/

namespace Editor

/-- What an editor can become when a notification is applied to it. Generated code is shown in the
output, if that is open. -/
inductive Applied (e : Editor) : ServerNotification → Editor → Prop where
  | highlighting {rows : List (String × TokenClass)} (c : Classifier) :
      Applied e (.highlighting rows)
        { e with workspace := e.workspace.setClassifier Language.codeId c }
  | commentKeyword {token : String} :
      Applied e (.commentKeyword token)
        { e with
          workspace := e.workspace.withLanguages fun r =>
            (r.setLineComment Language.codeId token).2 }
  | message {shown : Bool} {severity : Severity} {text : String} :
      Applied e (.message shown severity text) e
  | shown {language implementation : String} {change : Change} {typed relabelled : Workspace}
      (setText : e.workspace.setText .output implementation = .ok (change, typed))
      (setLanguage : typed.setLanguage .output (Text.lowerCase language) = .ok relabelled) :
      Applied e (.generatedCode language implementation) { e with workspace := relabelled }
  | hidden {language implementation : String} (closed : e.workspace.document .output = none) :
      Applied e (.generatedCode language implementation) e

theorem applied_of_ok {n : ServerNotification} {e e' : Editor}
    (h : e.applyNotification n = .ok e') : Applied e n e' := by
  cases n with
  | highlighting rows =>
      simp only [applyNotification] at h
      split at h
      · cases h
      · rename_i c hc
        cases h
        exact .highlighting c
  | commentKeyword token =>
      cases h
      exact .commentKeyword
  | message shown severity text =>
      cases h
      exact .message
  | generatedCode language implementation =>
      simp only [applyNotification, showCode] at h
      split at h
      · cases h
      · rename_i shown hshown
        cases h
        split at hshown
        · split at hshown
          · cases hshown
          · rename_i change typed htyped
            split at hshown
            · cases hshown
            · rename_i relabelled hrelabelled
              cases hshown
              exact .shown htyped hrelabelled
        · rename_i hclosed
          cases hshown
          exact .hidden (by simpa [Workspace.isOpen] using hclosed)

/-- Nothing that the server does concerns the primary or the schema surface. -/
theorem aside_applyNotification {n : ServerNotification} {e e' : Editor}
    (h : e.applyNotification n = .ok e') : Aside e e' := by
  cases applied_of_ok h with
  | highlighting c =>
      exact ⟨fun _ _ => rfl, ⟨[], by simp, by simp [Workspace.setClassifier]⟩, fun _ => rfl⟩
  | commentKeyword =>
      exact ⟨fun _ _ => rfl, ⟨[], by simp, by simp [Workspace.withLanguages]⟩, fun _ => rfl⟩
  | shown setText setLanguage =>
      -- both the text and the language are those of the output
      obtain ⟨-, hdocuments, -, hsurface, -, -, hchanges⟩ := Workspace.setText_eq_ok setText
      obtain ⟨hdocuments', hchanges'⟩ := Workspace.setLanguage_eq_ok setLanguage
      exact ⟨fun s hs => (hdocuments' s hs).trans (hdocuments s hs),
        ⟨[_], by simpa using hsurface, hchanges'.trans hchanges⟩, fun _ => rfl⟩
  | _ => exact ⟨fun _ _ => rfl, ⟨[], by simp, by simp⟩, fun _ => rfl⟩

end Editor

/-- What a control has offered is then selected in it, and in no other. -/
theorem PageControls.select_eq {kind : OptionKind} {value : String} {p p' : PageControls}
    (h : p.select kind value = (some true, p')) :
    (∃ v, p'.selected? kind = some v)
      ∧ ∀ other, other ≠ kind → p'.selected? other = p.selected? other := by
  unfold PageControls.select at h
  cases hc : p.get? kind with
  | none =>
      rw [hc] at h
      cases h
  | some c =>
      rw [hc] at h
      dsimp only at h
      cases hf : c.find? value with
      | none =>
          simp only [SelectControl.select, hf] at h
          cases h
      | some position =>
          simp only [SelectControl.select, hf] at h
          cases h
          refine ⟨?_, fun other ho => ?_⟩
          · have hlt : position < c.choices.length := (List.findIdx?_eq_some_iff_findIdx_eq.1 hf).1
            refine ⟨c.choices[position].value, ?_⟩
            simp [selected?, get?_put, SelectControl.selected?, List.getElem?_eq_getElem hlt]
          · simp [selected?, get?_put, ho]

/-- Whether an action leaves the primary and the schema surface open as they are, and the options
and the changes that wait to the bridge. -/
def EditorAction.isOrdinary : EditorAction → Bool
  | .setText _ _ => true
  | .openDocument s _ _ _ => s = .output
  | .close s => s = .output
  | .setLanguage s _ => s = .output
  | .setClassifier _ _ => true
  | .setLanguages _ => true
  | _ => false

/-- Whether an action is of the bridge or the transport, or an ordinary one of the editor. -/
def Action.isOrdinary : Action → Bool
  | .direct a => a.isOrdinary
  | _ => true

namespace Editor

open Reported (reflectOptions_eq sameLabels_absorbed)

theorem aside_act {a : EditorAction} (ordinary : a.isOrdinary = true)
    (notText : ∀ s text, a ≠ .setText s text) (e : Editor) : Aside e (e.act a) := by
  have hset : ∀ d, ∀ s : Surface, s ≠ .output →
      (e.workspace.documents.set .output d).get s = e.workspace.documents.get s := by
    intro d s hs
    rw [Panes.get_set, if_neg hs]
  have hnone : ∃ cs : List Change, (∀ c ∈ cs, c.surface = .output)
      ∧ e.workspace.changes = e.workspace.changes ++ cs := ⟨[], by simp, by simp⟩
  cases a with
  | setText s text => exact absurd rfl (notText s text)
  | openDocument s uri language text =>
      obtain rfl : s = .output := of_decide_eq_true ordinary
      exact ⟨hset _, hnone, fun _ => rfl⟩
  | close s =>
      obtain rfl : s = .output := of_decide_eq_true ordinary
      exact ⟨hset _, hnone, fun _ => rfl⟩
  | setLanguage s language =>
      obtain rfl : s = .output := of_decide_eq_true ordinary
      cases h : e.workspace.setLanguage .output language with
      | error err =>
          have hact : e.act (.setLanguage .output language) = e := by
            simp [act, Workspace.relabelled, h]
          rw [hact]
          exact ⟨fun _ _ => rfl, hnone, fun _ => rfl⟩
      | ok w =>
          have hact : e.act (.setLanguage .output language) = { e with workspace := w } := by
            simp [act, Workspace.relabelled, h]
          obtain ⟨hdocuments, hchanges⟩ := Workspace.setLanguage_eq_ok h
          rw [hact]
          exact ⟨hdocuments, ⟨[], by simp, by simpa using hchanges⟩, fun _ => rfl⟩
  | setClassifier language c => exact ⟨fun _ _ => rfl, hnone, fun _ => rfl⟩
  | setLanguages r => exact ⟨fun _ _ => rfl, hnone, fun _ => rfl⟩
  | _ => cases ordinary

theorem workspace_optionCalled (e : Editor) (kind : OptionKind) :
    (e.optionCalled kind).1.workspace = e.workspace := by
  unfold optionCalled
  cases e.controls.selected? kind <;> rfl

/-- A call of the host leaves the workspace as it is, replaces a text of it and takes its changes,
or changes it directly. -/
theorem workspace_called {motive : Workspace → Prop} {a : Action} (e : Editor)
    (same : motive e.workspace)
    (edit : ∀ s text change w, e.workspace.setText s text = .ok (change, w) →
      motive w.takeChanges.2)
    (direct : ∀ d, a = .direct d → motive (e.act d).workspace) :
    motive (e.called a).1.workspace := by
  cases a with
  | edit s text =>
      simp only [called]
      cases h : e.workspace.setText s text with
      | error err => exact same
      | ok p =>
          obtain ⟨change, w⟩ := p
          have hw := edit s text change w h
          dsimp only
          rwa [absorbed_workspace]
  | selectOption kind value =>
      simp only [called]
      rcases e.controls.select kind value with ⟨accepted, controls⟩
      rcases accepted with _ | _ | _
      · exact same
      · exact same
      · dsimp only
        rwa [workspace_optionCalled]
  | optionChanged kind =>
      simp only [called]
      rwa [workspace_optionCalled]
  | sendOptionState =>
      simp only [called]
      rwa [(reflectOptions_eq e).1]
  | direct d => exact direct d rfl
  | _ => exact same

/-- No ordinary action changes an address or a language that counts. -/
theorem sameLabels_called {a : Action} (ordinary : a.isOrdinary = true) (e : Editor) :
    e.SameLabels (e.called a).1 := by
  intro s hs
  refine e.workspace_called (motive := fun w => w.label s = e.workspace.label s) rfl ?_ ?_
  · intro t text change w h
    exact (Workspace.setText_eq_ok h).1 s
  · rintro d rfl
    have ordinary : d.isOrdinary = true := ordinary
    cases d with
    | setText t text =>
        show (e.workspace.typed t text).label s = e.workspace.label s
        unfold Workspace.typed
        cases h : e.workspace.setText t text with
        | error err => rfl
        | ok p => exact (Workspace.setText_eq_ok h).1 s
    | _ => exact (aside_act ordinary (by simp) e).sameLabels s hs

end Editor

/-- A choice is stored and sent. -/
theorem Reported.selected {e : Editor} {fs : List Frame} (h : Reported e fs) {kind : OptionKind}
    {value : String} {controls : PageControls}
    (hs : e.controls.select kind value = (some true, controls)) :
    Reported (({ e with controls := controls } : Editor).optionCalled kind).1
      (fs ++ frames (({ e with controls := controls } : Editor).optionCalled kind).2) := by
  obtain ⟨⟨v, hv⟩, hothers⟩ := PageControls.select_eq hs
  have hcalled : ({ e with controls := controls } : Editor).optionCalled kind
      = (({ e with controls := controls }).store kind.contentKey v,
        (({ e with controls := controls }).store kind.contentKey v).optionNotices kind v) := by
    unfold Editor.optionCalled
    rw [show ({ e with controls := controls } : Editor).controls.selected? kind = some v from hv]
  rw [hcalled]
  exact h.stored kind v hothers

/-- An ordinary action keeps what has been reported up to date. -/
theorem Reported.called {e : Editor} {fs : List Frame} (h : Reported e fs) (labels : e.IsLabelled)
    {a : Action} (ordinary : a.isOrdinary = true) :
    Reported (e.called a).1 (fs ++ frames (e.called a).2) := by
  have nothing : ∀ e' : Editor, Reported e' fs → Reported e' (fs ++ frames []) := by
    intro e' h'
    rwa [frames_nil, List.append_nil]
  cases a with
  | edit s text =>
      cases hw : e.workspace.setText s text with
      | error err =>
          simp only [Editor.called, hw]
          exact nothing e h
      | ok p =>
          simp only [Editor.called, hw]
          exact (h.typed labels hw).absorbed
  | selectOption kind value =>
      simp only [Editor.called]
      cases hs : e.controls.select kind value with
      | mk accepted controls =>
          rcases accepted with _ | _ | _
          · exact nothing e h
          · exact nothing e h
          · exact h.selected hs
  | optionChanged kind => exact h.optionCalled kind
  | sendSchemaState => exact h.schemaState
  | sendOptionState => exact h.optionState
  | direct a =>
      refine nothing _ ?_
      have ordinary : a.isOrdinary = true := ordinary
      cases a with
      | setText s text =>
          show Reported { e with workspace := e.workspace.typed s text } fs
          unfold Workspace.typed
          cases hw : e.workspace.setText s text with
          | error err => exact h
          | ok p => exact h.typed labels hw
      | _ => exact h.aside (Editor.aside_act ordinary (by simp) e)
  | _ => exact nothing e h

end SurfaceBridge
