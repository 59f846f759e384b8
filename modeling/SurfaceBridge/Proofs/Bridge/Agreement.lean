import SurfaceBridge.Proofs.Bridge.Conversation
import SurfaceBridge.Proofs.Bridge.Report

set_option autoImplicit false

/-! # Agreement with the server

As long as its line accepts everything, the server of the session is told what the editor holds.
The proof compares each action with the same action on a bridge where the reader of the line
never stops. There everything that is sent arrives, so what arrives can be computed (`live_act`);
and an action that leaves a session on the line does to the editor and to the session what it
does there (`same_act`).
-/

namespace SurfaceBridge

open Rpc (Connection Frame Lines)
open Rpc.Lines (Lasting Queued)

namespace Rpc.Lines

theorem keepReading_of_lasting {l : Nat} {lines : Lines} (h : Lasting l lines) :
    lines.keepReading l = lines := by
  obtain ⟨line, hl, hr⟩ := h
  apply List.ext_getElem?
  intro m
  rw [getElem?_keepReading]
  by_cases hm : l = m
  · subst hm
    rw [hl, Option.map_some, if_pos rfl]
    exact congrArg some (congrArg (Line.mk line.id line.frames) hr.symm)
  · simp [hm]

/-- Whether a reader stops makes no difference to the other lines. -/
theorem send_keepReading_of_ne {c : Connection} {l : Nat} (h : c.line ≠ l) (f : Frame)
    (lines : Lines) :
    (lines.keepReading l).send c f = (lines.send c f).map (keepReading l) := by
  cases hs : lines.send c f with
  | some lines' => exact send_keepReading l hs
  | none =>
      have hline : (lines.keepReading l)[c.line]? = lines[c.line]? := by
        rw [getElem?_keepReading]
        simp [Ne.symm h]
      unfold send at hs ⊢
      rw [hline]
      cases hl : lines[c.line]? with
      | none => rfl
      | some line =>
          rw [hl] at hs
          cases hr : line.isRead with
          | true => simp [hr] at hs
          | false => simp [hr]

theorem Queued.lasting_of_ne {l m : Nat} {fs : List Frame} {before after : Lines}
    (h : Queued m fs before after) (hne : l ≠ m) (last : Lasting l before) : Lasting l after := by
  obtain ⟨line, hl, hr⟩ := last
  exact ⟨line, (h.others l hne).trans hl, hr⟩

end Rpc.Lines

theorem tellAll_keepReading_of_ne {session : Option Session} {l : Nat}
    (h : ∀ s, session = some s → s.line ≠ l) (ns : List ClientNotification) (lines : Lines) :
    tellAll session ns (lines.keepReading l) = (tellAll session ns lines).keepReading l := by
  cases session with
  | none => rw [tellAll_none, tellAll_none]
  | some s =>
      induction ns generalizing lines with
      | nil => rfl
      | cons n ns ih =>
          -- this may be refused, but then it is refused on both sides
          have htell : tell (some s) n (lines.keepReading l)
              = (tell (some s) n lines).keepReading l := by
            have hsend := Rpc.Lines.send_keepReading_of_ne (h s rfl) n.frame lines
            simp only [tell, Session.tell, Rpc.Client.send, hsend]
            cases lines.send s.client.connection n.frame <;> rfl
          rw [tellAll_cons, tellAll_cons, htell, ih]

namespace Bridge

/-- The bridge with a line whose reader never stops. -/
def keepReading (l : Nat) (b : Bridge) : Bridge := { b with lines := b.lines.keepReading l }

/-- Everything that a run sends on a line is accepted: no action queues less on it than it would if
the reader of the line never stopped. -/
def Accepted (l : Nat) : List Action → Bridge → Prop
  | [], _ => True
  | a :: as, b =>
    (b.act a).lines.framesAt l = ((b.keepReading l).act a).lines.framesAt l
      ∧ Accepted l as (b.act a)

/-! ## The same with other lines -/

variable {l : Nat} {limit : Option Nat} {b taken : Bridge} {e : Event}

theorem nextEvent_lines (lines : Lines) (b : Bridge) :
    ({ b with lines := lines } : Bridge).nextEvent
      = b.nextEvent.map fun p => (p.1, { p.2 with lines := lines }) := by
  unfold nextEvent
  dsimp only
  split <;> rfl

/-- Two bridges with the same editor and the same session. -/
def SameState (b b' : Bridge) : Prop := b'.editor = b.editor ∧ b'.session = b.session

/-- What an event other than an opening does to the editor and the session does not depend on the
lines. -/
theorem same_handled (lines : Lines) (b : Bridge) (notOpened : ∀ c, e ≠ .opened c) :
    SameState (b.handled limit e).2 (({ b with lines := lines } : Bridge).handled limit e).2 := by
  by_cases old : b.IsStale e
  · have old' : ({ b with lines := lines } : Bridge).IsStale e := old
    rw [handled_stale old, handled_stale old']
    exact ⟨rfl, rfl⟩
  · rcases eq_of_not_isStale old with ⟨c, rfl⟩ | ⟨s, hs, rfl | ⟨text, rfl⟩⟩
    · exact absurd rfl (notOpened c)
    · have hs' : ({ b with lines := lines } : Bridge).session = some s := hs
      rw [handled_closed limit hs, handled_closed limit hs']
      exact ⟨rfl, rfl⟩
    · have hs' : ({ b with lines := lines } : Bridge).session = some s := hs
      rw [handled_message limit hs, handled_message limit hs']
      unfold handleMessage
      cases Rpc.Message.read text with
      | error err => exact ⟨rfl, rfl⟩
      | ok m =>
          cases m with
          | request id method params =>
              dsimp only
              cases s.answer id method params lines <;>
                cases s.answer id method params b.lines <;> exact ⟨rfl, rfl⟩
          | response id result error => exact ⟨rfl, rfl⟩
          | notification method params =>
              dsimp only
              cases ServerNotification.decode method params with
              | error err => exact ⟨rfl, rfl⟩
              | ok found =>
                  cases found with
                  | none => exact ⟨rfl, rfl⟩
                  | some n =>
                      dsimp only
                      cases b.editor.applyNotification n <;> exact ⟨rfl, rfl⟩

/-- A handshake that succeeds does so as well if a reader does not go away. -/
theorem handshake_keepReading {c : Connection} (l : Nat)
    (ok : (b.handshake c limit).outcome = .ok ()) :
    (b.keepReading l).handshake c limit = { b.handshake c limit with
      lines := (b.handshake c limit).lines.keepReading l } :=
  Session.start_keepReading l ok

/-- What an opening that leaves a session on the line does to the editor and the session does not
depend on whether the reader of the line stops. -/
theorem same_opened {c : Connection} {s : Session}
    (hs : (b.handled limit (.opened c)).2.session = some s) :
    s.line = c.line ∧ ∀ m, SameState (b.handled limit (.opened c)).2
      ((b.keepReading m).handled limit (.opened c)).2 := by
  rw [handled_opened] at hs
  cases ho : (b.handshake c limit).outcome with
  | error err =>
      rw [ho] at hs
      cases hs
  | ok u =>
      cases u
      rw [ho] at hs
      have hsession : (b.handshake c limit).session = s := Option.some.inj hs
      refine ⟨?_, fun m => ?_⟩
      · rw [← hsession]
        exact line_handshake b c limit
      · rw [handled_opened, handled_opened, handshake_keepReading m ho, ho]
        dsimp only
        rw [started_eq_told, started_eq_told]
        refine ⟨rfl, ?_⟩
        show some ((b.keepReading m).handshake c limit).session
          = some (b.handshake c limit).session
        rw [handshake_keepReading m ho]

/-- A poll that leaves a session on the line does to the editor and the session what it does if
the reader of the line never stops. -/
theorem same_poll {clientName : String} (h : Orderly clientName b) {s : Session}
    (hs : (b.poll limit).2.session = some s) (hl : s.line = l) :
    SameState (b.poll limit).2 ((b.keepReading l).poll limit).2 := by
  have hd : (b.keepReading l).dispatch
      = { b.dispatch with lines := (b.keepReading l).dispatch.lines } := by
    rw [dispatch_eq, dispatch_eq]
    rfl
  generalize hL : (b.keepReading l).dispatch.lines = lines' at hd
  cases hn : b.dispatch.nextEvent with
  | none =>
      have hn' : (b.keepReading l).dispatch.nextEvent = none := by
        rw [hd, nextEvent_lines, hn]
        rfl
      rw [poll_of_none hn, poll_of_none hn', hd]
      exact ⟨rfl, rfl⟩
  | some p =>
      obtain ⟨e, taken⟩ := p
      have hn' : (b.keepReading l).dispatch.nextEvent
          = some (e, { taken with lines := lines' }) := by
        rw [hd, nextEvent_lines, hn]
        rfl
      rw [poll_of_next hn, poll_of_next hn']
      rw [poll_of_next hn] at hs
      by_cases hopened : ∃ c, e = .opened c
      · obtain ⟨c, rfl⟩ := hopened
        obtain ⟨hline, hsame⟩ := same_opened hs
        -- the line is that of the new session, so nothing has been dispatched to it so far
        have hother : ∀ s', b.session = some s' → s'.line ≠ l := by
          intro s' hs' he
          have hopening := (h.dispatch.next_opened hn).1
          exact h.dispatch.line_ne hs' hopening (hline.symm.trans (hl.trans he.symm))
        have hlines : lines' = taken.lines.keepReading l := by
          rw [← hL, (nextEvent_keeps hn).2.2.1, dispatch_eq, dispatch_eq]
          exact tellAll_keepReading_of_ne hother _ _
        rw [hlines]
        exact hsame l
      · exact same_handled lines' taken fun c hc => hopened ⟨c, hc⟩

theorem same_act {clientName : String} (h : Orderly clientName b) (a : Action) {s : Session}
    (hs : (b.act a).session = some s) (hl : s.line = l) :
    SameState (b.act a) ((b.keepReading l).act a) := by
  cases a using Action.cases_kind with
  | transport a ha =>
      obtain ⟨heditor, hsession, -⟩ := act_of_isTransport ha b
      obtain ⟨heditor', hsession', -⟩ := act_of_isTransport ha (b.keepReading l)
      exact ⟨heditor'.trans heditor.symm, hsession'.trans hsession.symm⟩
  | poll limit => exact same_poll h hs hl
  | call a ha =>
      rw [act_of_isCall ha, act_of_isCall ha]
      exact ⟨rfl, rfl⟩

/-- The line of a session is there before the action that leaves the session. -/
theorem Orderly.lt_length_of_act {clientName : String} (h : Orderly clientName b) (a : Action)
    {s : Session} (hs : (b.act a).session = some s) : s.line < b.lines.length := by
  have hbefore : b.session = some s → s.line < b.lines.length :=
    fun hs => h.exists_line _ (mem_held_of_session hs)
  cases a using Action.cases_kind with
  | transport a ha =>
      rw [(act_of_isTransport ha b).2.1] at hs
      exact hbefore hs
  | poll limit =>
      rw [← length_polling (polling_poll limit b)]
      exact (h.act (.poll limit)).exists_line _ (mem_held_of_session hs)
  | call a ha =>
      rw [act_of_isCall ha] at hs
      exact hbefore hs

/-! ## A line that lasts -/

theorem lasting_told (last : Lasting l b.lines) (e : Editor) (ns : List ClientNotification) :
    Lasting l (b.told e ns).lines := by
  cases hs : b.session with
  | none =>
      rw [lines_told_of_none b e ns hs]
      exact last
  | some s =>
      by_cases hl : s.line = l
      · subst hl
        unfold told
        rw [hs]
        exact (tellAll_of_lasting last ns).2
      · obtain ⟨fs, -, hq⟩ := queued_told b e ns hs
        exact hq.lasting_of_ne (Ne.symm hl) last

theorem lasting_dispatch (last : Lasting l b.lines) : Lasting l b.dispatch.lines := by
  rw [dispatch_eq_told]
  exact lasting_told last _ _

theorem lasting_handshake {c : Connection} (last : Lasting l b.lines)
    (ok : (b.handshake c limit).outcome = .ok ()) : Lasting l (b.handshake c limit).lines := by
  have hkeep : b.keepReading l = b := by
    rw [keepReading, Rpc.Lines.keepReading_of_lasting last]
  -- the handshake comes to the same with its reader kept, which is what it has already
  have hlines : (b.handshake c limit).lines = (b.handshake c limit).lines.keepReading l := by
    have h := handshake_keepReading l ok
    rw [hkeep] at h
    exact congrArg Session.Start.lines h
  obtain ⟨fs, hq, -⟩ := (b.handshake_spec c limit).queued
  rw [hlines]
  refine Rpc.Lines.lasting_keepReading ?_
  rw [hq.length]
  exact last.lt_length

/-- On a line that lasts everything arrives that is told there. -/
theorem framesAt_told_of_lasting (last : Lasting l b.lines) {s : Session}
    (hs : b.session = some s) (hl : s.line = l) (e : Editor) (ns : List ClientNotification) :
    (b.told e ns).lines.framesAt l = b.lines.framesAt l ++ frames ns := by
  subst hl
  unfold told
  rw [hs]
  exact (tellAll_of_lasting last ns).1

theorem lasting_started (last : Lasting l b.lines) :
    Lasting l b.sendSchemaState.sendOptionState.lines := by
  rw [started_eq_told]
  exact lasting_told (lasting_told last _ _) _ _

theorem framesAt_started (last : Lasting l b.lines) {s : Session} (hs : b.session = some s)
    (hl : s.line = l) :
    b.sendSchemaState.sendOptionState.lines.framesAt l
      = b.lines.framesAt l ++ frames b.editor.schemaStateNotices
        ++ frames b.editor.optionStateNotices := by
  rw [started_eq_told, framesAt_told_of_lasting (lasting_told last _ _) hs hl,
    framesAt_told_of_lasting last hs hl]

/-! ## The invariant -/

/-- Handling an event changes no address or language that counts. -/
theorem sameLabels_handling {after : Bridge}
    {result : Except BridgeError (Option BridgeEvent)} (h : Handling limit b e result after) :
    b.editor.SameLabels after.editor := by
  cases h with
  | started ok =>
      rw [started_eq_told]
      exact .of_workspace (Reported.reflectOptions_eq b.editor).1
  | applied active done => exact (Editor.aside_applyNotification done).sameLabels
  | _ => exact .refl _

theorem sameLabels_polling {after : Bridge} {result : Except BridgeError (Option BridgeEvent)}
    (h : Polling limit b result after) : b.editor.SameLabels after.editor := by
  have hd : b.editor.SameLabels b.dispatch.editor := by
    rw [dispatch_eq_told]
    exact Reported.sameLabels_absorbed b.editor
  cases h with
  | idle => exact hd
  | handled next handling =>
      have h := sameLabels_handling handling
      rw [(nextEvent_keeps next).1] at h
      exact hd.trans h

theorem sameLabels_act {a : Action} (ordinary : a.isOrdinary = true) (b : Bridge) :
    b.editor.SameLabels (b.act a).editor := by
  cases a using Action.cases_kind with
  | transport a ha =>
      rw [(act_of_isTransport ha b).1]
      exact .refl _
  | poll limit => exact sameLabels_polling (polling_poll limit b)
  | call a ha =>
      rw [act_of_isCall ha]
      exact Editor.sameLabels_called ordinary b.editor

/-- Neither the handshake nor the answers in it are reports. -/
theorem lastNotice_handshake {c : Connection} (fresh : b.lines.framesAt c.line = [])
    (ok : (b.handshake c limit).outcome = .ok ()) {m : String}
    (reports : m = schemaMethod ∨ ∃ kind : OptionKind, m = kind.method) :
    lastNotice m ((b.handshake c limit).lines.framesAt c.line) = none := by
  obtain ⟨answers, ha, hframes, -⟩ := @exists_answers_handshake c limit b fresh
  rw [hframes ok]
  refine lastNotice_eq_none fun f hf => ?_
  rcases List.mem_append.1 hf with hf | hf
  · rcases List.mem_cons.1 hf with rfl | hf
    · rfl
    · exact isNotice_of_isAnswer (ha f hf) m
  · rw [List.mem_singleton.1 hf]
    rcases reports with rfl | ⟨kind, rfl⟩
    · rfl
    · cases kind <;> rfl

/-- A new session on a line that lasts is told everything. -/
theorem reported_started {c : Connection} (last : Lasting c.line b.lines)
    (empty : b.editor.workspace.changes = []) (fresh : b.lines.framesAt c.line = [])
    (ok : (b.handshake c limit).outcome = .ok ()) :
    Reported (b.withSession c limit).sendSchemaState.sendOptionState.editor
      ((b.withSession c limit).sendSchemaState.sendOptionState.lines.framesAt c.line) := by
  have hline := line_handshake b c limit
  have hlast : Lasting c.line (b.withSession c limit).lines := lasting_handshake last ok
  rw [framesAt_started hlast rfl hline, started_eq_told]
  exact Reported.start empty fun m reports => lastNotice_handshake fresh ok reports

/-- What holds between any two ordinary actions as long as a line accepts everything: if the
session is on this line, the frames of the line report the state of the editor. -/
structure Agreeing (clientName : String) (l : Nat) (b : Bridge) : Prop where
  orderly : Orderly clientName b
  labelled : b.editor.IsLabelled
  reported : ∀ s, b.session = some s → s.line = l → Reported b.editor (b.lines.framesAt l)

namespace Agreeing

variable {clientName : String} {after : Bridge} {s : Session}

theorem dispatch (h : Agreeing clientName l b) (last : Lasting l b.lines) :
    Agreeing clientName l b.dispatch where
  orderly := h.orderly.dispatch
  labelled := by
    rw [dispatch_eq_told]
    exact h.labelled.of_sameLabels (Reported.sameLabels_absorbed b.editor)
  reported s hs hl := by
    rw [dispatch_eq_told] at hs ⊢
    rw [framesAt_told_of_lasting last hs hl]
    exact (h.reported s hs hl).absorbed

/-- On a line that lasts, handling an event reports what has come of it. -/
theorem handled (h : Agreeing clientName l b) (last : Lasting l b.lines)
    (empty : b.editor.workspace.changes = []) (next : b.nextEvent = some (e, taken))
    {result : Except BridgeError (Option BridgeEvent)}
    (handling : Handling limit taken e result after) (hs : after.session = some s)
    (hl : s.line = l) : Reported after.editor (after.lines.framesAt l) := by
  obtain ⟨heditor, -, hlines, hsession⟩ := nextEvent_keeps next
  have hreported : ∀ s, taken.session = some s → s.line = l →
      Reported taken.editor (taken.lines.framesAt l) := by
    rw [hsession, heditor, hlines]
    exact h.reported
  rw [← hlines] at last
  rw [← heditor] at empty
  cases handling with
  | refused => cases hs
  | @started c ok =>
      have hc : c.line = l := by
        rw [started_eq_told] at hs
        have hsession : (taken.handshake c limit).session = s := Option.some.inj hs
        rw [← hl, ← hsession]
        exact (line_handshake taken c limit).symm
      subst hc
      have hfresh : taken.lines.framesAt c.line = [] := by
        rw [hlines]
        exact h.orderly.fresh c (h.orderly.next_opened next).1
      exact reported_started last empty hfresh ok
  | closed => cases hs
  | @answered s' _ f lines active isAnswer sent =>
      have hs' : taken.session = some s := hs
      obtain rfl : s' = s := Option.some.inj (active.symm.trans hs')
      have hframes : lines.framesAt l = taken.lines.framesAt l ++ [f] := by
        rw [← hl]
        exact (Rpc.Lines.queued_of_send sent).frames
      show Reported taken.editor (lines.framesAt l)
      rw [hframes]
      exact (hreported s' active hl).answer isAnswer
  | applied _ done => exact (hreported s hs hl).aside (Editor.aside_applyNotification done)
  | ignored => exact hreported s hs hl
  | stale => exact hreported s hs hl

theorem polling (h : Agreeing clientName l b) (last : Lasting l b.lines)
    {result : Except BridgeError (Option BridgeEvent)} (hp : Polling limit b result after)
    (hs : after.session = some s) (hl : s.line = l) :
    Reported after.editor (after.lines.framesAt l) := by
  have hempty : b.dispatch.editor.workspace.changes = [] := by
    rw [editor_dispatch, Editor.absorbed_workspace]
    rfl
  cases hp with
  | idle => exact (h.dispatch last).reported s hs hl
  | handled next handling =>
      exact (h.dispatch last).handled (lasting_dispatch last) hempty next handling hs hl

/-- On a line that lasts, an action reports what has come of it. -/
theorem act_of_lasting (h : Agreeing clientName l b) (last : Lasting l b.lines) {a : Action}
    (ordinary : a.isOrdinary = true) (hs : (b.act a).session = some s) (hl : s.line = l) :
    Reported (b.act a).editor ((b.act a).lines.framesAt l) := by
  cases a using Action.cases_kind with
  | transport a ha =>
      obtain ⟨heditor, hsession, hframes⟩ := act_of_isTransport ha b
      rw [heditor, hframes]
      exact h.reported s (hsession.symm.trans hs) hl
  | poll limit => exact h.polling last (polling_poll limit b) hs hl
  | call a ha =>
      rw [act_of_isCall ha] at hs ⊢
      rw [framesAt_told_of_lasting last hs hl]
      exact (h.reported s hs hl).called h.labelled ordinary

theorem keepReading (h : Agreeing clientName l b) : Agreeing clientName l (b.keepReading l) where
  orderly := h.orderly.of_framesAt (Rpc.Lines.length_keepReading l b.lines)
    fun m => Rpc.Lines.framesAt_keepReading l m b.lines
  labelled := h.labelled
  reported s hs hl := by
    show Reported b.editor ((b.lines.keepReading l).framesAt l)
    rw [Rpc.Lines.framesAt_keepReading]
    exact h.reported s hs hl

/-- An action of which everything is accepted keeps the invariant. -/
theorem act (h : Agreeing clientName l b) {a : Action} (ordinary : a.isOrdinary = true)
    (accepted : (b.act a).lines.framesAt l = ((b.keepReading l).act a).lines.framesAt l) :
    Agreeing clientName l (b.act a) where
  orderly := h.orderly.act a
  labelled := h.labelled.of_sameLabels (sameLabels_act ordinary b)
  reported s hs hl := by
    have hlt : l < b.lines.length := by
      rw [← hl]
      exact h.orderly.lt_length_of_act a hs
    -- what has come of the action is computed where the reader never stops
    obtain ⟨heditor, hsession⟩ := same_act h.orderly a hs hl
    rw [accepted, ← heditor]
    exact h.keepReading.act_of_lasting (Rpc.Lines.lasting_keepReading hlt) ordinary
      (hsession.trans hs) hl

theorem run (h : Agreeing clientName l b) {as : List Action}
    (ordinary : ∀ a ∈ as, a.isOrdinary = true) (accepted : Accepted l as b) :
    Agreeing clientName l (b.run as) := by
  induction as generalizing b with
  | nil => exact h
  | cons a as ih =>
      obtain ⟨hfirst, hrest⟩ := accepted
      have hact := h.act (ordinary a List.mem_cons_self) hfirst
      exact ih hact (fun a' ha => ordinary a' (List.mem_cons_of_mem a ha)) hrest

end Agreeing

/-! ## Every run -/

/-- While no change of the schema waits, nothing more is to be sent. -/
theorem waitingNotices_of_settled {e : Editor} (labelled : ∀ c ∈ e.workspace.changes, c.IsLabelled)
    (settled : ∀ c ∈ e.workspace.changes, c.surface ≠ .schema) : e.waitingNotices = [] :=
  List.flatMap_eq_nil_iff.2 fun c hc => e.changeNotices_eq_nil (labelled c hc) (settled c hc)

/-- After every run of ordinary actions from an editor with a primary surface in the code language
and a schema surface in the schema language: if there is a session of which everything has been
accepted, and no change of the schema waits, then the server has last been told the text of the
schema and, of each option, the value that is stored or else selected. -/
theorem agreement_of_run (e : Editor) (clientName : String) (as : List Action) {b : Bridge}
    {s : Session} (labelled : e.IsLabelled) (ordinary : ∀ a ∈ as, a.isOrdinary = true)
    (reached : (ofEditor e clientName).run as = b) (active : b.session = some s)
    (accepted : Accepted s.line as (ofEditor e clientName))
    (settled : ∀ c ∈ b.editor.workspace.changes, c.surface ≠ .schema) :
    ∃ uri schema, b.editor.workspace.uri .primary = some uri
      ∧ b.editor.workspace.text .schema = some schema
      ∧ lastNotice schemaMethod (b.lines.framesAt s.line)
          = some (ClientNotification.schemaChanged schema uri).frame
      ∧ ∀ kind : OptionKind, lastNotice kind.method (b.lines.framesAt s.line)
          = (b.editor.optionValue kind).map fun value =>
              (ClientNotification.optionChanged kind value uri).frame := by
  have hstart : Agreeing clientName s.line (ofEditor e clientName) :=
    ⟨orderly_ofEditor e clientName, labelled, fun s' hs' => by cases hs'⟩
  have h := hstart.run ordinary accepted
  rw [reached] at h
  obtain ⟨hchanges, hschema, hoption⟩ := h.reported s active rfl
  obtain ⟨uri, huri⟩ := h.labelled.primary
  obtain ⟨_, hlabel⟩ := h.labelled.schema
  have huri' : b.editor.primaryUri = some uri := by
    rw [Editor.primaryUri_eq, huri]
    rfl
  obtain ⟨d, hd, -⟩ := Option.map_eq_some_iff.1 hlabel
  have htext : b.editor.workspace.text .schema = some d.text := by
    rw [Workspace.text, hd]
    rfl
  refine ⟨uri, d.text, huri', htext, ?_, fun kind => ?_⟩
  · rw [waitingNotices_of_settled hchanges settled, frames_nil, List.append_nil] at hschema
    rw [hschema, Editor.schemaReport, huri', htext]
  · rw [hoption, Editor.optionReport, huri']
    cases b.editor.optionValue kind <;> rfl

/-- A schema that is typed reaches the server with the next poll, and a choice at once. -/
theorem agreement_of_run_typed :
    ∃ b s, (ofEditor .sample "page").run (Action.welcome 1 ++ [.direct (.setText .schema "b: 2"),
          .poll none, .selectOption .culture "en"]) = b
      ∧ b.session = some s
      ∧ lastNotice schemaMethod (b.lines.framesAt s.line)
          = some (ClientNotification.schemaChanged "b: 2" "file:///main.ov").frame
      ∧ lastNotice OptionKind.culture.method (b.lines.framesAt s.line)
          = some (ClientNotification.optionChanged .culture "en" "file:///main.ov").frame := by
  generalize hb : (ofEditor .sample "page").run (Action.welcome 1
    ++ [.direct (.setText .schema "b: 2"), .poll none, .selectOption .culture "en"]) = b
  have hline : b.session.map Session.line = some 0 := by
    rw [← hb]
    cbv
  have hchanges : b.editor.workspace.changes = [] := by
    rw [← hb]
    cbv
  have hstate : b.editor.workspace.uri .primary = some "file:///main.ov"
      ∧ b.editor.workspace.text .schema = some "b: 2"
      ∧ b.editor.optionValue .culture = some "en" := by
    rw [← hb]
    cbv
  obtain ⟨s, hs, hl⟩ := Option.map_eq_some_iff.1 hline
  have haccepted : Accepted s.line (Action.welcome 1
      ++ [.direct (.setText .schema "b: 2"), .poll none, .selectOption .culture "en"])
        (ofEditor .sample "page") := by
    rw [hl]
    cbv
  obtain ⟨uri, schema, huri, hschema, hlast, hoption⟩ := agreement_of_run .sample "page" _
    ⟨⟨"file:///main.ov", by cbv⟩, ⟨"file:///main.yaml", by cbv⟩⟩ (by decide) hb hs haccepted
    (by simp [hchanges])
  obtain ⟨huri', hschema', hvalue⟩ := hstate
  obtain rfl := Option.some.inj (huri.symm.trans huri')
  obtain rfl := Option.some.inj (hschema.symm.trans hschema')
  refine ⟨b, s, rfl, hs, hlast, ?_⟩
  rw [hoption, hvalue]
  rfl

end Bridge

end SurfaceBridge
