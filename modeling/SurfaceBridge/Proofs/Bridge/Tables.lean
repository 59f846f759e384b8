import SurfaceBridge.Proofs.Bridge.Delivery
import SurfaceBridge.Proofs.Bridge.Messages
import SurfaceBridge.Proofs.Bridge.Report
import SurfaceBridge.Proofs.Protocol.Payloads

set_option autoImplicit false

/-! # Tables of the server

A table that a session hands over is either taken as a whole or refused as a whole. Which of the
two happens is said of the text of the message alone (`acceptedTable?`), so what is in force after
a run can be read off the messages that the run hands over: it is the last of them that brings a
table that is accepted (`tables_of_run`). `Installs` says what one action does to the classifiers.
-/

namespace SurfaceBridge

open Rpc (Message)

/-- The rows of a table. -/
abbrev Rows := List (String × TokenClass)

/-- The classifiers of all languages. -/
abbrev Classifiers := List (String × Classifier)

/-- The method of notifications that bring tables. -/
def tableMethod : String := "ov/semanticHighlightingUpdated"

/-! ## Classifiers of tables -/

/-- The rows that count: those that have a pattern, and one that is not empty. -/
def filledRows (rows : List (Option String × TokenClass)) : Rows :=
  rows.filterMap fun row => (row.1.filter fun pattern => pattern ≠ "").map fun pattern =>
    (pattern, row.2)

theorem filterMap_filledRow (rows : List (Option String × TokenClass)) :
    rows.filterMap filledRow = filledRows rows := by
  refine List.filterMap_congr fun row _ => ?_
  obtain ⟨pattern, kind⟩ := row
  cases pattern with
  | none => rfl
  | some pattern =>
      by_cases h : pattern = ""
      · simp [filledRow, h]
      · simp [filledRow, h]

theorem ne_empty_of_mem_filledRows {rows : List (Option String × TokenClass)}
    {row : String × TokenClass} (h : row ∈ filledRows rows) : row.1 ≠ "" := by
  simp only [filledRows, List.mem_filterMap, Option.map_eq_some_iff,
    Option.filter_eq_some_iff] at h
  obtain ⟨-, -, pattern, ⟨-, hne⟩, rfl⟩ := h
  simpa using hne

variable (engine : Pattern.Engine)

/-- The first pattern of a table that does not compile. -/
def badPattern? (rows : Rows) : Option String :=
  (rows.map Prod.fst).find? fun pattern => (engine.compile? pattern).isNone

/-- A classifier has a rule for every row, in order, and no others. -/
structure Classifier.IsOf (engine : Pattern.Engine) (c : Classifier) (rows : Rows) : Prop where
  rules : List.Forall₂ (fun row rule => Rule.compile? engine row.1 row.2 none = some rule) rows
    c.rules
  table : c.table = rows

namespace Classifier

/-- A table without empty patterns makes a classifier with a rule for every row, unless one of its
patterns does not compile. -/
theorem ofTable_spec : ∀ (rows : Rows), (∀ row ∈ rows, row.1 ≠ "") →
    (badPattern? engine rows = none ∧ ∃ c, ofTable engine rows = .ok c ∧ c.IsOf engine rows)
      ∨ ∃ pattern, badPattern? engine rows = some pattern
        ∧ ofTable engine rows = .error pattern := by
  intro rows
  induction rows with
  | nil => exact fun _ => Or.inl ⟨rfl, ⟨[]⟩, rfl, .nil, rfl⟩
  | cons row rows ih =>
      intro filled
      obtain ⟨pattern, kind⟩ := row
      have hpattern : pattern.isEmpty = false := by
        simpa using filled (pattern, kind) (List.mem_cons_self ..)
      cases hcompile : engine.compile? pattern with
      | none =>
          refine Or.inr ⟨pattern, ?_, ?_⟩
          · simp [badPattern?, hcompile]
          · simp [ofTable, hpattern, Rule.compile?, hcompile]
      | some p =>
          have hbad : badPattern? engine ((pattern, kind) :: rows) = badPattern? engine rows := by
            simp [badPattern?, hcompile]
          have hrule : Rule.compile? engine pattern kind none = some ⟨p, kind, none⟩ := by
            simp [Rule.compile?, hcompile]
          have htable : ofTable engine ((pattern, kind) :: rows)
              = (ofTable engine rows).map fun c => ⟨⟨p, kind, none⟩ :: c.rules⟩ := by
            simp [ofTable, hpattern, hrule]
          rw [hbad, htable]
          -- this row compiles, so what becomes of the table is decided by the rows behind it
          rcases ih fun d hd => filled d (List.mem_cons_of_mem _ hd) with
            ⟨hnone, c, hc, hof⟩ | ⟨bad, hsome, herror⟩
          · refine Or.inl ⟨hnone, ⟨⟨p, kind, none⟩ :: c.rules⟩, by rw [hc]; rfl, ?_, ?_⟩
            · exact .cons hrule hof.rules
            · have hrest := hof.table
              unfold table at hrest ⊢
              rw [List.map_cons, hrest, engine.text_of_compile? hcompile]
          · exact Or.inr ⟨bad, hsome, by rw [herror]; rfl⟩

end Classifier

/-! ## What a message does -/

/-- The payload of a message that brings a table. -/
def tablePayload? (text : String) : Option Json :=
  match Message.read text with
  | .ok (.notification method params) => if method = tableMethod then some params else none
  | _ => none

/-- The rows that count of the table in a message, if the table is decoded and all their patterns
compile. -/
def acceptedTable? (text : String) : Option Rows :=
  (tablePayload? text).bind fun params =>
    match decodePayload (.list highlightDecoder) tableMethod params with
    | .error _ => none
    | .ok rows =>
      if badPattern? engine (filledRows rows) = none then some (filledRows rows) else none

/-- What comes of a payload for a table: the result of the poll, and the classifiers after it. -/
inductive Judged (engine : Pattern.Engine) (params : Json) (before : Classifiers) :
    Except BridgeError (Option BridgeEvent) → Classifiers → Prop where
  /-- It is not decoded. -/
  | malformed {problem : Json.Problem}
      (undecoded : decodePayload (.list highlightDecoder) tableMethod params
        = .error (.malformed tableMethod problem)) :
      Judged engine params before (.error (.payload (.malformed tableMethod problem))) before
  /-- A pattern does not compile. -/
  | invalid {rows : List (Option String × TokenClass)} {pattern : String}
      (decoded : decodePayload (.list highlightDecoder) tableMethod params = .ok rows)
      (bad : badPattern? engine (filledRows rows) = some pattern) :
      Judged engine params before (.error (.invalidPattern pattern)) before
  /-- It is taken as a whole. -/
  | installed {rows : List (Option String × TokenClass)} {c : Classifier}
      (decoded : decodePayload (.list highlightDecoder) tableMethod params = .ok rows)
      (compiles : badPattern? engine (filledRows rows) = none)
      (whole : c.IsOf engine (filledRows rows)) :
      Judged engine params before (.ok (some (.notification (.highlighting (filledRows rows)))))
        (Dictionary.insert Language.codeId c before)

/-- How an action that brings a table, or none, changes the classifiers. -/
def Installs (table : Option Rows) (before after : Classifiers) : Prop :=
  match table with
  | none => after = before
  | some rows => ∃ c : Classifier, c.IsOf engine rows
      ∧ after = Dictionary.insert Language.codeId c before

/-- A message that brings a table is judged, and nothing but the classifiers depends on it. -/
theorem Editor.judged_heed {text : String} {params : Json}
    (h : Message.read text = .ok (.notification tableMethod params)) (e : Editor) :
    Judged e.engine params e.workspace.classifiers (e.heed text).1
      (e.heed text).2.1.workspace.classifiers := by
  have hdecode : ServerNotification.decode tableMethod params
      = (decodePayload (.list highlightDecoder) tableMethod params).map
        fun rows => some (.highlighting (filledRows rows)) := by
    rw [tableMethod, ServerNotification.decode_highlighting]
    simp only [filterMap_filledRow]
  cases hrows : decodePayload (.list highlightDecoder) tableMethod params with
  | error p =>
      obtain ⟨problem, rfl⟩ := decodePayload_error hrows
      simp only [heed, h, hdecode, hrows, Except.map]
      exact .malformed hrows
  | ok rows =>
      rcases Classifier.ofTable_spec e.engine (filledRows rows) fun row => ne_empty_of_mem_filledRows with
        ⟨hnone, c, hc, hof⟩ | ⟨pattern, hsome, herror⟩
      · simp only [heed, h, hdecode, hrows, Except.map, applyNotification, hc]
        exact .installed hrows hnone hof
      · simp only [heed, h, hdecode, hrows, Except.map, applyNotification, herror]
        exact .invalid hrows hsome

theorem Judged.installs {text : String} {params : Json} {before after : Classifiers}
    {result : Except BridgeError (Option BridgeEvent)}
    (judged : Judged engine params before result after) (h : tablePayload? text = some params) :
    Installs engine (acceptedTable? engine text) before after := by
  cases judged with
  | malformed undecoded => simp [Installs, acceptedTable?, h, undecoded]
  | invalid decoded bad => simp [Installs, acceptedTable?, h, decoded, bad]
  | installed decoded compiles whole =>
      simp only [Installs, acceptedTable?, h, decoded, compiles, Option.bind_some, if_true]
      exact ⟨_, whole, rfl⟩

/-! ## What else changes the classifiers -/

namespace Workspace

theorem classifiers_setText {w w' : Workspace} {s : Surface} {text : String} {change : Change}
    (h : w.setText s text = .ok (change, w')) : w'.classifiers = w.classifiers := by
  unfold setText at h
  split at h <;> cases h
  rfl

theorem classifiers_setLanguage {w w' : Workspace} {s : Surface} {language : String}
    (h : w.setLanguage s language = .ok w') : w'.classifiers = w.classifiers := by
  unfold setLanguage at h
  split at h <;> cases h
  rfl

end Workspace

namespace Editor

/-- Only a table changes the classifiers. -/
theorem Applied.classifiers {e e' : Editor} {n : ServerNotification} (h : Applied e n e')
    (other : n.method ≠ tableMethod) : e'.workspace.classifiers = e.workspace.classifiers := by
  cases h with
  | highlighting c => exact absurd rfl other
  | commentKeyword => rfl
  | message => rfl
  | shown setText setLanguage =>
      exact (Workspace.classifiers_setLanguage setLanguage).trans
        (Workspace.classifiers_setText setText)
  | hidden closed => rfl

theorem classifiers_heed {text : String} (h : tablePayload? text = none) (e : Editor) :
    (e.heed text).2.1.workspace.classifiers = e.workspace.classifiers := by
  unfold heed
  cases hread : Message.read text with
  | error err => rfl
  | ok m =>
      cases m with
      | request id method params => rfl
      | response id result error => rfl
      | notification method params =>
          have hmethod : method ≠ tableMethod := by
            rintro rfl
            simp [tablePayload?, hread] at h
          dsimp only
          cases hdecode : ServerNotification.decode method params with
          | error err => rfl
          | ok found =>
              cases found with
              | none => rfl
              | some n =>
                  dsimp only
                  cases happ : e.applyNotification n with
                  | error err => rfl
                  | ok e' =>
                      refine (applied_of_ok happ).classifiers ?_
                      rw [ServerNotification.method_of_decode hdecode]
                      exact hmethod

/-- A message of the session installs the table that it brings, if that is accepted. -/
theorem installs_heed (text : String) (e : Editor) :
    Installs e.engine (acceptedTable? e.engine text) e.workspace.classifiers
      (e.heed text).2.1.workspace.classifiers := by
  cases h : tablePayload? text with
  | none =>
      have hnone : acceptedTable? e.engine text = none := by
        simp [acceptedTable?, h]
      rw [hnone]
      exact classifiers_heed h e
  | some params =>
      have hread : Message.read text = .ok (.notification tableMethod params) := by
        unfold tablePayload? at h
        split at h
        · split at h <;> cases h
          rename_i hmethod hread
          rw [hread, hmethod]
        · cases h
      exact (judged_heed hread e).installs _ h

/-- A call of the host does not change the classifiers, except by a direct change of them. -/
theorem classifiers_called {a : Action} (e : Editor)
    (quiet : ∀ d, a = .direct d → (e.act d).workspace.classifiers = e.workspace.classifiers) :
    (e.called a).1.workspace.classifiers = e.workspace.classifiers := by
  refine e.workspace_called (motive := fun w => w.classifiers = e.workspace.classifiers) rfl ?_
    quiet
  intro s text change w h
  show w.classifiers = e.workspace.classifiers
  exact Workspace.classifiers_setText h

end Editor

namespace Bridge

variable {b : Bridge} {limit : Option Nat}

/-- What is installed by a poll that hands over what `handedOf` says. -/
theorem handed_poll {id : Nat} {text : String}
    (h : b.handedOf (.poll limit) = some (id, text)) :
    (b.poll limit).1 = (b.editor.absorbed.heed text).1
      ∧ (b.poll limit).2.editor = (b.editor.absorbed.heed text).2.1 := by
  obtain ⟨s, taken, active, rfl, next⟩ := next_of_handedOf h
  obtain ⟨heditor, -, -, hsession⟩ := nextEvent_keeps next
  rw [poll_of_next next, handled_message_eq limit (hsession.trans active), heditor,
    editor_dispatch]
  exact ⟨rfl, rfl⟩

theorem classifiers_absorbed (e : Editor) :
    e.absorbed.workspace.classifiers = e.workspace.classifiers := by
  rw [Editor.absorbed_workspace]
  rfl

/-- A poll that hands nothing over leaves the classifiers as they are. -/
theorem classifiers_poll (h : b.handedOf (.poll limit) = none) :
    (b.poll limit).2.editor.workspace.classifiers = b.editor.workspace.classifiers := by
  have hdispatch : b.dispatch.editor.workspace.classifiers = b.editor.workspace.classifiers := by
    rw [editor_dispatch]
    exact classifiers_absorbed b.editor
  cases next : b.dispatch.nextEvent with
  | none =>
      rw [poll_of_none next]
      exact hdispatch
  | some p =>
      obtain ⟨e, taken⟩ := p
      obtain ⟨heditor, -, -, hsession⟩ := nextEvent_keeps next
      have htaken : taken.editor.workspace.classifiers = b.editor.workspace.classifiers := by
        rw [heditor]
        exact hdispatch
      rw [poll_of_next next]
      by_cases old : taken.IsStale e
      · rw [handled_stale old]
        exact htaken
      · rcases eq_of_not_isStale old with ⟨c, rfl⟩ | ⟨s, hs, rfl | ⟨text, rfl⟩⟩
        · rw [handled_opened]
          cases (taken.handshake c limit).outcome with
          | error err => exact htaken
          | ok u =>
              dsimp only
              rw [started_eq_told]
              exact (congrArg Workspace.classifiers (Reported.reflectOptions_eq _).1).trans htaken
        · rw [handled_closed limit hs]
          exact htaken
        · have hactive : b.session = some s := hsession.symm.trans hs
          simp [handedOf, next, hactive, Event.message?] at h

/-- An action installs the table that it hands over, if that is accepted, and changes the
classifiers in no other way. -/
theorem installs_act (a : Action) (b : Bridge)
    (quiet : ∀ d, a = .direct d →
      (b.editor.act d).workspace.classifiers = b.editor.workspace.classifiers) :
    Installs b.editor.engine ((b.handedOf a).bind fun m => acceptedTable? b.editor.engine m.2)
      b.editor.workspace.classifiers (b.act a).editor.workspace.classifiers := by
  cases a using Action.cases_kind with
  | transport a ha =>
      have hhanded : b.handedOf a = none := by
        cases a <;> first | rfl | cases ha
      rw [hhanded]
      exact congrArg (fun e : Editor => e.workspace.classifiers) (act_of_isTransport ha b).1
  | poll limit =>
      cases h : b.handedOf (.poll limit) with
      | none => exact classifiers_poll h
      | some m =>
          obtain ⟨id, text⟩ := m
          have hheed := b.editor.absorbed.installs_heed text
          rw [classifiers_absorbed, Editor.absorbed_engine, ← (handed_poll h).2] at hheed
          exact hheed
  | call a ha =>
      have hhanded : b.handedOf a = none := by
        cases a <;> first | rfl | cases ha
      rw [hhanded, act_of_isCall ha]
      exact b.editor.classifiers_called quiet

/-! ## The engine -/

end Bridge

namespace Editor

theorem engine_applyNotification {n : ServerNotification} {e e' : Editor}
    (h : e.applyNotification n = .ok e') : e'.engine = e.engine := by
  cases applied_of_ok h <;> rfl

theorem engine_called (e : Editor) (a : Action) : (e.called a).1.engine = e.engine := by
  have hoption : ∀ (e : Editor) kind, (e.optionCalled kind).1.engine = e.engine := by
    intro e kind
    unfold optionCalled
    split <;> rfl
  cases a with
  | edit s text =>
      simp only [called]
      cases e.workspace.setText s text with
      | error err => rfl
      | ok p => exact absorbed_engine { e with workspace := p.2 }
  | selectOption kind value =>
      simp only [called]
      rcases e.controls.select kind value with ⟨accepted, controls⟩
      rcases accepted with _ | _ | _
      · rfl
      · rfl
      · exact hoption _ kind
  | optionChanged kind => exact hoption e kind
  | sendOptionState => exact reflectOptions_engine e
  | direct d => cases d <;> rfl
  | _ => rfl

end Editor

namespace Bridge

variable {b : Bridge} {limit : Option Nat}

theorem engine_handling {e : Event} {result : Except BridgeError (Option BridgeEvent)}
    {after : Bridge} (h : Handling limit b e result after) :
    after.editor.engine = b.editor.engine := by
  cases h with
  | started ok =>
      rw [started_eq_told]
      exact Editor.reflectOptions_engine b.editor
  | applied active done => exact Editor.engine_applyNotification done
  | _ => rfl

/-- The engine is never replaced. -/
theorem engine_act (a : Action) (b : Bridge) : (b.act a).editor.engine = b.editor.engine := by
  cases a using Action.cases_kind with
  | transport a transport => rw [(act_of_isTransport transport b).1]
  | call a call =>
      rw [act_of_isCall call]
      exact b.editor.engine_called a
  | poll limit =>
      have hdispatch : b.dispatch.editor.engine = b.editor.engine := by
        rw [editor_dispatch, Editor.absorbed_engine]
      show (b.poll limit).2.editor.engine = _
      have hpoll := polling_poll limit b
      generalize (b.poll limit).2 = after at hpoll ⊢
      cases hpoll with
      | idle => exact hdispatch
      | handled next handling =>
          rw [engine_handling handling, (nextEvent_keeps next).1]
          exact hdispatch

theorem engine_run (as : List Action) (b : Bridge) :
    (b.run as).editor.engine = b.editor.engine := by
  induction as generalizing b with
  | nil => rfl
  | cons a as ih => exact (ih (b.act a)).trans (engine_act a b)

/-! ## Runs -/

/-- Nobody but the server changes the classifiers in a run. -/
def LeavesClassifiers : List Action → Bridge → Prop
  | [], _ => True
  | a :: as, b =>
    (∀ d, a = .direct d →
        (b.editor.act d).workspace.classifiers = b.editor.workspace.classifiers)
      ∧ LeavesClassifiers as (b.act a)

/-- The last of the tables that a run hands over and that are accepted. -/
def lastTable? (as : List Action) (b : Bridge) : Option Rows :=
  ((b.handedIn as).filterMap fun m => acceptedTable? engine m.2).getLast?

theorem lastTable?_cons (a : Action) (as : List Action) (b : Bridge) :
    b.lastTable? engine (a :: as)
      = ((b.act a).lastTable? engine as).or
        ((b.handedOf a).bind fun m => acceptedTable? engine m.2) := by
  have hfirst : ((b.handedOf a).toList.filterMap fun m => acceptedTable? engine m.2).getLast?
      = (b.handedOf a).bind fun m => acceptedTable? engine m.2 := by
    cases b.handedOf a with
    | none => rfl
    | some m =>
        cases h : acceptedTable? engine m.2 <;> simp [h]
  rw [lastTable?, handedIn, List.filterMap_append, List.getLast?_append, hfirst]
  rfl

end Bridge

/-- The classifiers when a table, or none, is in force: there are none beside that of the code, and
that one is the table as a whole. -/
inductive InForce (engine : Pattern.Engine) : Option Rows → Classifiers → Prop where
  | absent : InForce engine none []
  | whole {rows : Rows} {c : Classifier} (isOf : c.IsOf engine rows) :
      InForce engine (some rows) [(Language.codeId, c)]

theorem InForce.installs {table next : Option Rows} {before after : Classifiers}
    (h : InForce engine table before) (k : Installs engine next before after) :
    InForce engine (next.or table) after := by
  cases next with
  | none =>
      have hafter : after = before := k
      rw [hafter, Option.none_or]
      exact h
  | some rows =>
      obtain ⟨c, hof, rfl⟩ := k
      have hinsert : Dictionary.insert Language.codeId c before = [(Language.codeId, c)] := by
        cases h with
        | absent => rfl
        | whole => simp [Dictionary.insert]
      rw [hinsert, Option.some_or]
      exact .whole hof

namespace Bridge

theorem inForce_run : ∀ (as : List Action) {b : Bridge} {table : Option Rows},
    InForce b.editor.engine table b.editor.workspace.classifiers → b.LeavesClassifiers as →
    InForce b.editor.engine ((b.lastTable? b.editor.engine as).or table)
      (b.run as).editor.workspace.classifiers := by
  intro as
  induction as with
  | nil => exact fun h _ => h
  | cons a as ih =>
      intro b table h quiet
      obtain ⟨hquiet, hrest⟩ := quiet
      have hstep := h.installs _ (installs_act a b hquiet)
      rw [← engine_act a b] at hstep
      -- what the later actions install wins over what this one installs
      have hrun := ih hstep hrest
      rw [engine_act, ← Option.or_assoc, ← lastTable?_cons] at hrun
      exact hrun

/-- If only the server sets classifiers, then the last table that a session has handed over and
that was accepted is in force as a whole, and before there is one there is no classifier at all.
What the next poll makes of a table is `Judged`: it refuses it and changes no classifier, or it
takes all of its rows. All this is so whichever patterns the engine compiles. -/
theorem tables_of_run (as : List Action) (b : Bridge)
    (fresh : b.editor.workspace.classifiers = []) (quiet : b.LeavesClassifiers as) :
    InForce b.editor.engine (b.lastTable? b.editor.engine as)
        (b.run as).editor.workspace.classifiers
      ∧ ∀ limit id text params, (b.run as).handedOf (.poll limit) = some (id, text) →
        Message.read text = .ok (.notification tableMethod params) →
        Judged b.editor.engine params (b.run as).editor.workspace.classifiers
          ((b.run as).poll limit).1 ((b.run as).poll limit).2.editor.workspace.classifiers := by
  constructor
  · have hfresh : InForce b.editor.engine none b.editor.workspace.classifiers := by
      rw [fresh]
      exact .absent
    have hrun := inForce_run as hfresh quiet
    rwa [Option.or_none] at hrun
  · intro limit id text params handed read
    obtain ⟨hresult, heditor⟩ := handed_poll handed
    have hjudged := (b.run as).editor.absorbed.judged_heed read
    rw [← hresult, ← heditor, classifiers_absorbed, Editor.absorbed_engine, engine_run] at hjudged
    exact hjudged

/-- A table of which one pattern does not compile, after one that was accepted. -/
theorem tables_of_run_refused :
    ∃ (as : List Action) (b : Bridge),
      (b.editor.workspace.classifiers = [] ∧ b.LeavesClassifiers as)
        ∧ ((b.run as).poll none).1.toOption = none
        ∧ ∃ c : Classifier, (b.run as).editor.workspace.classifiers = [(Language.codeId, c)]
          ∧ c.table = [("if", .keyword)] := by
  generalize has : Action.welcome 1 ++ [
    .signal (.message 1 (Rpc.Frame.notification tableMethod
      (.list [.list [.text "if", .text "keyword"]])).text),
    .poll none,
    .signal (.message 1 (Rpc.Frame.notification tableMethod
      (.list [.list [.text "a", .text "string"], .list [.text "(", .text "string"]])).text)] = as
  generalize hb : ofEditor .sample "page" = b
  have hfresh : b.editor.workspace.classifiers = [] := by
    rw [← hb]
    rfl
  have hquiet : b.LeavesClassifiers as := by
    rw [← hb, ← has]
    simp [Action.welcome, LeavesClassifiers]
  have htable : b.lastTable? b.editor.engine as = some [("if", .keyword)] := by
    rw [← hb, ← has]
    cbv
  have hresult : ((b.run as).poll none).1.toOption = none := by
    rw [← hb, ← has]
    cbv
  have hforce := (tables_of_run as b hfresh hquiet).1
  rw [htable] at hforce
  generalize hcs : (b.run as).editor.workspace.classifiers = cs at hforce
  cases hforce with
  | @whole _ c isOf => exact ⟨as, b, ⟨hfresh, hquiet⟩, hresult, c, hcs, isOf.table⟩

end Bridge

end SurfaceBridge
