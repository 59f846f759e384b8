import SurfaceBridge.Bridge.Basic
import SurfaceBridge.Proofs.Rpc.Queueing

set_option autoImplicit false

/-! # What the editor tells the server

Dispatching changes and sending the state of the editor do two things at once: they change the
editor and they queue notifications. The two are taken apart here. What becomes of the editor does
not depend on the session or on the lines, and the notifications are a list that depends on the
editor alone; `tellAll` sends such a list.
-/

namespace SurfaceBridge

open Rpc (Lines)
open Rpc.Lines (Lasting Queued)

/-- The line that a session sends on. -/
def Session.line (s : Session) : Nat := s.client.connection.line

/-- Tells the server several things. -/
def tellAll (session : Option Session) (ns : List ClientNotification) (lines : Lines) : Lines :=
  ns.foldl (fun lines n => tell session n lines) lines

@[simp] theorem tellAll_nil (session : Option Session) (lines : Lines) :
    tellAll session [] lines = lines := rfl

theorem tellAll_cons (session : Option Session) (n : ClientNotification)
    (ns : List ClientNotification) (lines : Lines) :
    tellAll session (n :: ns) lines = tellAll session ns (tell session n lines) := rfl

theorem tellAll_append (session : Option Session) (ms ns : List ClientNotification)
    (lines : Lines) :
    tellAll session (ms ++ ns) lines = tellAll session ns (tellAll session ms lines) :=
  List.foldl_append

@[simp] theorem tellAll_none (ns : List ClientNotification) (lines : Lines) :
    tellAll none ns lines = lines := by
  induction ns with
  | nil => rfl
  | cons n ns ih => exact ih

/-- Telling queues the frame of the notification, or nothing. -/
theorem queued_tell (s : Session) (n : ClientNotification) (lines : Lines) :
    ∃ fs, fs <+: [n.frame] ∧ Queued s.line fs lines (tell (some s) n lines) := by
  simp only [tell, Session.tell, Rpc.Client.send]
  cases h : lines.send s.client.connection n.frame with
  | none => exact ⟨[], List.nil_prefix, Queued.refl _ _⟩
  | some lines' => exact ⟨[n.frame], List.prefix_rfl, Rpc.Lines.queued_of_send h⟩

theorem queued_tellAll (s : Session) (ns : List ClientNotification) (lines : Lines) :
    ∃ fs, (∀ f ∈ fs, ∃ n ∈ ns, f = n.frame)
      ∧ Queued s.line fs lines (tellAll (some s) ns lines) := by
  induction ns generalizing lines with
  | nil => exact ⟨[], by simp, Queued.refl _ _⟩
  | cons n ns ih =>
      obtain ⟨fs, hfs, hq⟩ := queued_tell s n lines
      obtain ⟨gs, hgs, hr⟩ := ih (tell (some s) n lines)
      refine ⟨fs ++ gs, fun f hf => ?_, hq.trans hr⟩
      rcases List.mem_append.1 hf with hf | hf
      · exact ⟨n, by simp, List.mem_singleton.1 (hfs.subset hf)⟩
      · obtain ⟨m, hm, rfl⟩ := hgs f hf
        exact ⟨m, by simp [hm], rfl⟩

/-- A reader that never stops gets everything. -/
theorem tellAll_of_lasting {s : Session} {lines : Lines} (h : Lasting s.line lines)
    (ns : List ClientNotification) :
    (tellAll (some s) ns lines).framesAt s.line
        = lines.framesAt s.line ++ ns.map ClientNotification.frame
      ∧ Lasting s.line (tellAll (some s) ns lines) := by
  induction ns generalizing lines with
  | nil => exact ⟨by simp, h⟩
  | cons n ns ih =>
      -- the induction is on what is told; the line lasts from one frame to the next
      obtain ⟨lines', hsend, hlast⟩ := h.send n.frame
      have htell : tell (some s) n lines = lines' := by
        simp [tell, Session.tell, Rpc.Client.send, hsend]
      have hframes : lines'.framesAt s.line = lines.framesAt s.line ++ [n.frame] :=
        (Rpc.Lines.queued_of_send hsend).frames
      obtain ⟨h1, h2⟩ := ih hlast
      rw [tellAll_cons, htell]
      refine ⟨?_, h2⟩
      calc (tellAll (some s) ns lines').framesAt s.line
          = lines'.framesAt s.line ++ ns.map ClientNotification.frame := h1
        _ = (lines.framesAt s.line ++ [n.frame]) ++ ns.map ClientNotification.frame := by
          rw [hframes]
        _ = lines.framesAt s.line ++ (n :: ns).map ClientNotification.frame := by simp

namespace Editor

/-! ## The state of the editor -/

/-- What is sent for a text of the schema. -/
def schemaNotices (e : Editor) (schema : String) : List ClientNotification :=
  match e.primaryUri with
  | none => []
  | some uri => [.schemaChanged schema uri]

/-- What is sent for a value of an option. -/
def optionNotices (e : Editor) (kind : OptionKind) (value : String) : List ClientNotification :=
  match e.primaryUri with
  | none => []
  | some uri => [.optionChanged kind value uri]

/-- What is sent for the schema surface. -/
def schemaStateNotices (e : Editor) : List ClientNotification :=
  match e.workspace.text .schema with
  | none => []
  | some schema => e.schemaNotices schema

/-- What is sent for the current value of an option. -/
def optionValueNotices (e : Editor) (kind : OptionKind) : List ClientNotification :=
  match e.optionValue kind with
  | none => []
  | some value => e.optionNotices kind value

/-- What is sent for the current values of the options. -/
def optionStateNotices (e : Editor) : List ClientNotification :=
  OptionKind.all.flatMap e.optionValueNotices

/-- The editor with the stored values of the options selected in their controls. -/
def reflectOptions (e : Editor) : Editor :=
  OptionKind.all.foldl (fun e kind => e.reflectOption kind) e

variable (e : Editor) (session : Option Session) (lines : Lines)

theorem sendSchema_eq (schema : String) :
    e.sendSchema session schema lines = tellAll session (e.schemaNotices schema) lines := by
  unfold sendSchema schemaNotices
  cases e.primaryUri <;> rfl

theorem sendOption_eq (kind : OptionKind) (value : String) :
    e.sendOption session kind value lines
      = tellAll session (e.optionNotices kind value) lines := by
  unfold sendOption optionNotices
  cases e.primaryUri <;> rfl

theorem sendSchemaState_eq :
    e.sendSchemaState session lines = tellAll session e.schemaStateNotices lines := by
  unfold sendSchemaState schemaStateNotices
  cases e.workspace.text .schema with
  | none => rfl
  | some schema => exact e.sendSchema_eq session lines schema

@[simp] theorem reflectOption_workspace (kind : OptionKind) :
    (e.reflectOption kind).workspace = e.workspace := by
  unfold reflectOption
  split <;> rfl

@[simp] theorem reflectOption_content (kind : OptionKind) :
    (e.reflectOption kind).content = e.content := by
  unfold reflectOption
  split <;> rfl

@[simp] theorem reflectOption_engine (kind : OptionKind) :
    (e.reflectOption kind).engine = e.engine := by
  unfold reflectOption
  split <;> rfl

theorem reflectOptions_engine : e.reflectOptions.engine = e.engine := by
  show ((e.reflectOption .culture).reflectOption .language).engine = e.engine
  rw [reflectOption_engine, reflectOption_engine]

/-- A control that reflects the stored value does not change what the value of an option is. -/
theorem optionValue_reflectOption (kind other : OptionKind) :
    (e.reflectOption kind).optionValue other = e.optionValue other := by
  unfold optionValue
  rw [reflectOption_content]
  cases hc : e.content.get? other.contentKey with
  | some value => rfl
  | none =>
      suffices (e.reflectOption kind).controls.selected? other = e.controls.selected? other by
        simp [this]
      unfold reflectOption
      cases hk : e.content.get? kind.contentKey with
      | none => rfl
      | some value =>
          -- only a stored value is reflected, and this option has none
          have hne : other ≠ kind := by
            rintro rfl
            simp [hk] at hc
          show (e.controls.select kind value).2.selected? other = _
          unfold PageControls.select
          cases hg : e.controls.get? kind with
          | none => rfl
          | some c => simp [PageControls.selected?, PageControls.get?_put, hne]

theorem optionValueNotices_reflectOption (kind other : OptionKind) :
    (e.reflectOption kind).optionValueNotices other = e.optionValueNotices other := by
  unfold optionValueNotices
  rw [optionValue_reflectOption]
  cases e.optionValue other with
  | none => rfl
  | some value => simp [optionNotices, primaryUri]

theorem sendOptionOf_eq (kind : OptionKind) :
    sendOptionOf session (e, lines) kind
      = (e.reflectOption kind, tellAll session (e.optionValueNotices kind) lines) := by
  simp only [sendOptionOf]
  rw [← optionValueNotices_reflectOption e kind kind]
  unfold optionValueNotices
  cases (e.reflectOption kind).optionValue kind with
  | none => rfl
  | some value => simp only [sendOption_eq]

theorem sendOptionState_eq :
    e.sendOptionState session lines
      = (e.reflectOptions, tellAll session e.optionStateNotices lines) := by
  show sendOptionOf session (sendOptionOf session (e, lines) .culture) .language = _
  rw [sendOptionOf_eq, sendOptionOf_eq, optionValueNotices_reflectOption, ← tellAll_append]
  simp [reflectOptions, optionStateNotices, OptionKind.all]

/-! ## Changes -/

/-- The editor after it has taken in one change. -/
def absorb (e : Editor) (c : Change) : Editor :=
  if c.surface = .output then e
  else if c.language = Language.schemaId then e.store .schema c.text
  else if c.language = Language.codeId then e.store .code c.text
  else e

/-- What is sent for one change. -/
def changeNotices (e : Editor) (c : Change) : List ClientNotification :=
  if c.surface = .output then []
  else if c.language = Language.schemaId then e.schemaNotices c.text
  else []

/-- The editor without the changes that wait. -/
def settled (e : Editor) : Editor := { e with workspace := e.workspace.takeChanges.2 }

/-- The editor after it has taken in all changes that wait. -/
def absorbed (e : Editor) : Editor := e.workspace.changes.foldl absorb e.settled

/-- What is sent for all changes that wait. -/
def waitingNotices (e : Editor) : List ClientNotification :=
  e.workspace.changes.flatMap e.changeNotices

@[simp] theorem absorb_workspace (c : Change) : (e.absorb c).workspace = e.workspace := by
  unfold absorb store
  split
  · rfl
  · split
    · rfl
    · split <;> rfl

@[simp] theorem absorb_engine (c : Change) : (e.absorb c).engine = e.engine := by
  unfold absorb store
  split
  · rfl
  · split
    · rfl
    · split <;> rfl

theorem dispatchChange_eq (c : Change) :
    dispatchChange session (e, lines) c
      = (e.absorb c, tellAll session (e.changeNotices c) lines) := by
  simp only [dispatchChange, absorb, changeNotices]
  split
  · rfl
  · split
    · rw [sendSchema_eq]
    · split <;> rfl

theorem changeNotices_congr {e e' : Editor}
    (h : e'.workspace.uri .primary = e.workspace.uri .primary) (c : Change) :
    e'.changeNotices c = e.changeNotices c := by
  simp [changeNotices, schemaNotices, primaryUri, h]

theorem foldl_dispatchChange (changes : List Change) :
    changes.foldl (dispatchChange session) (e, lines)
      = (changes.foldl absorb e, tellAll session (changes.flatMap e.changeNotices) lines) := by
  induction changes generalizing e lines with
  | nil => rfl
  | cons c changes ih =>
      -- the notifications only need the address of the primary surface, which stays
      have hc : ∀ d, (e.absorb c).changeNotices d = e.changeNotices d :=
        changeNotices_congr (by simp)
      rw [List.foldl_cons, dispatchChange_eq, ih, List.flatMap_cons, tellAll_append, funext hc]
      rfl

theorem dispatch_eq :
    e.dispatch session lines = (e.absorbed, tellAll session e.waitingNotices lines) := by
  have hc : ∀ d, e.settled.changeNotices d = e.changeNotices d := changeNotices_congr rfl
  show e.workspace.changes.foldl (dispatchChange session) (e.settled, lines) = _
  rw [foldl_dispatchChange, funext hc]
  rfl

/-- Changes of the output are not taken in. -/
theorem foldl_absorb_filter (changes : List Change) :
    (changes.filter fun c => c.surface ≠ .output).foldl absorb e = changes.foldl absorb e := by
  induction changes generalizing e with
  | nil => rfl
  | cons c changes ih =>
      by_cases hc : c.surface = .output
      · have habsorb : e.absorb c = e := if_pos hc
        rw [List.filter_cons_of_neg (by simp [hc]), List.foldl_cons, habsorb, ih]
      · rw [List.filter_cons_of_pos (by simp [hc]), List.foldl_cons, List.foldl_cons, ih]

theorem foldl_absorb_workspace (changes : List Change) :
    (changes.foldl absorb e).workspace = e.workspace := by
  induction changes generalizing e with
  | nil => rfl
  | cons c changes ih => rw [List.foldl_cons, ih, absorb_workspace]

@[simp] theorem absorbed_workspace : e.absorbed.workspace = e.workspace.takeChanges.2 :=
  e.settled.foldl_absorb_workspace _

theorem foldl_absorb_engine (changes : List Change) :
    (changes.foldl absorb e).engine = e.engine := by
  induction changes generalizing e with
  | nil => rfl
  | cons c changes ih => rw [List.foldl_cons, ih, absorb_engine]

theorem absorbed_engine : e.absorbed.engine = e.engine := e.settled.foldl_absorb_engine _

end Editor

namespace Bridge

theorem dispatch_eq (b : Bridge) :
    b.dispatch = { b with
      editor := b.editor.absorbed
      lines := tellAll b.session b.editor.waitingNotices b.lines } := by
  rw [dispatch, Editor.dispatch_eq]
  rfl

theorem sendSchemaState_eq (b : Bridge) :
    b.sendSchemaState
      = { b with lines := tellAll b.session b.editor.schemaStateNotices b.lines } := by
  rw [sendSchemaState, Editor.sendSchemaState_eq]

theorem sendOptionState_eq (b : Bridge) :
    b.sendOptionState = { b with
      editor := b.editor.reflectOptions
      lines := tellAll b.session b.editor.optionStateNotices b.lines } := by
  rw [sendOptionState, Editor.sendOptionState_eq]
  rfl

end Bridge

end SurfaceBridge
