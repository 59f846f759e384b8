import SurfaceBridge.Proofs.Bridge.Handles

set_option autoImplicit false

/-! # What a connection carries

The frames on every line follow one grammar: the request of the handshake, answers to requests
of the server, the confirmation, and then reports and answers in any order; they can break off
anywhere. What is left behind is left for good: when a session closes, when it gives way to the
next connection, and when a handshake fails, there is no handle to the line any more and nothing
is queued on it again.

Lines are told apart by position, so none of this needs the ids of connections to differ.
-/

namespace SurfaceBridge

open Rpc (Connection Frame Lines)
open Rpc.Lines (Queued)

/-- A report to the server about the editor. -/
def Rpc.Frame.IsReport (f : Frame) : Prop := ∃ n : ClientNotification, f = n.frame

/-- The frames of a connection on which the handshake has not been confirmed. -/
def Unconfirmed (clientName : String) (fs : List Frame) : Prop :=
  ∃ answers, (∀ f ∈ answers, f.IsAnswer) ∧ fs <+: Session.greeting clientName :: answers

/-- The frames of a connection on which the handshake has been confirmed. -/
def Confirmed (clientName : String) (fs : List Frame) : Prop :=
  ∃ answers talk, (∀ f ∈ answers, f.IsAnswer) ∧ (∀ f ∈ talk, f.IsReport ∨ f.IsAnswer)
    ∧ fs = Session.greeting clientName :: answers ++ Session.confirmation :: talk

/-- The frames of any connection. -/
def Conversation (clientName : String) (fs : List Frame) : Prop :=
  ∃ answers talk, (∀ f ∈ answers, f.IsAnswer) ∧ (∀ f ∈ talk, f.IsReport ∨ f.IsAnswer)
    ∧ fs <+: Session.greeting clientName :: answers ++ Session.confirmation :: talk

section Grammar

variable {clientName : String} {fs gs : List Frame}

theorem Rpc.Frame.not_isReport_of_isAnswer {f : Frame} (h : f.IsAnswer) : ¬ f.IsReport := by
  obtain ⟨id, method, params, rfl⟩ := h
  rintro ⟨n, hn⟩
  unfold Rpc.Frame.answer at hn
  split at hn
  · cases hn
  · split at hn <;> cases hn

/-- No report is made before the handshake has been confirmed. -/
theorem Unconfirmed.not_isReport (h : Unconfirmed clientName fs) : ∀ f ∈ fs, ¬ f.IsReport := by
  obtain ⟨answers, ha, hp⟩ := h
  intro f hf
  rcases List.mem_cons.1 (hp.subset hf) with rfl | hmem
  · rintro ⟨n, hn⟩
    cases hn
  · exact Rpc.Frame.not_isReport_of_isAnswer (ha f hmem)

theorem Unconfirmed.conversation (h : Unconfirmed clientName fs) :
    Conversation clientName fs := by
  obtain ⟨answers, ha, hp⟩ := h
  exact ⟨answers, [], ha, by simp, hp.trans (List.prefix_append _ _)⟩

theorem Confirmed.conversation (h : Confirmed clientName fs) : Conversation clientName fs := by
  obtain ⟨answers, talk, ha, ht, rfl⟩ := h
  exact ⟨answers, talk, ha, ht, List.prefix_rfl⟩

/-- Once confirmed, a conversation goes on with reports and answers. -/
theorem Confirmed.append (h : Confirmed clientName fs)
    (hg : ∀ f ∈ gs, f.IsReport ∨ f.IsAnswer) : Confirmed clientName (fs ++ gs) := by
  obtain ⟨answers, talk, ha, ht, rfl⟩ := h
  refine ⟨answers, talk ++ gs, ha, fun f hf => ?_, by simp⟩
  rcases List.mem_append.1 hf with hf | hf
  · exact ht f hf
  · exact hg f hf

theorem unconfirmed_nil : Unconfirmed clientName [] := ⟨[], by simp, List.nil_prefix⟩

theorem conversation_nil : Conversation clientName [] := unconfirmed_nil.conversation

end Grammar

namespace Bridge

/-! ## A handshake is the start of a conversation -/

variable {c : Connection} {clientName : String} {limit : Option Nat} {b : Bridge}

/-- What a handshake leaves on a line without frames. -/
theorem exists_answers_handshake (fresh : b.lines.framesAt c.line = []) :
    ∃ answers, (∀ f ∈ answers, f.IsAnswer)
      ∧ ((b.handshake c limit).outcome = .ok () → (b.handshake c limit).lines.framesAt c.line
          = Session.greeting b.clientName :: answers ++ [Session.confirmation])
      ∧ (∀ err, (b.handshake c limit).outcome = .error err →
          (b.handshake c limit).lines.framesAt c.line
            <+: Session.greeting b.clientName :: answers) := by
  obtain ⟨fs, hq, hcases⟩ := (b.handshake_spec c limit).queued
  have hframes : (b.handshake c limit).lines.framesAt c.line = fs := by
    rw [hq.frames, fresh]
    rfl
  rw [hframes]
  rcases hcases with ⟨⟨err, ho⟩, -, rfl⟩ | ⟨⟨err, ho⟩, answers, ha, rfl⟩ | ⟨ho, answers, ha, rfl⟩
  · rw [ho]
    exact ⟨[], by simp, by simp, fun _ _ => List.nil_prefix⟩
  · rw [ho]
    exact ⟨answers, ha, by simp, fun _ _ => List.prefix_rfl⟩
  · rw [ho]
    exact ⟨answers, ha, fun _ => rfl, by simp⟩

/-- A handshake on a line without frames leaves a conversation there, which is confirmed if the
handshake succeeds. -/
theorem framesAt_handshake (name : b.clientName = clientName)
    (fresh : b.lines.framesAt c.line = []) :
    ((b.handshake c limit).outcome = .ok ()
        → Confirmed clientName ((b.handshake c limit).lines.framesAt c.line))
      ∧ (∀ err, (b.handshake c limit).outcome = .error err
        → Unconfirmed clientName ((b.handshake c limit).lines.framesAt c.line)) := by
  obtain ⟨answers, ha, hok, herr⟩ := @exists_answers_handshake c limit b fresh
  rw [← name]
  exact ⟨fun ok => ⟨answers, [], ha, by simp, hok ok⟩, fun err ho => ⟨answers, ha, herr err ho⟩⟩

/-! ## The invariant -/

/-- What holds of a bridge whose name is `clientName` between any two actions. -/
structure Orderly (clientName : String) (b : Bridge) : Prop where
  /-- The name that is given to the servers stays the same. -/
  name : b.clientName = clientName
  /-- No two handles are to the same line. -/
  distinct : (b.held.map Connection.line).Nodup
  /-- The handles are to lines that exist. -/
  exists_line : ∀ c ∈ b.held, c.line < b.lines.length
  /-- Nothing has been queued for a connection that waits to be handled. -/
  fresh : ∀ c ∈ b.opening, b.lines.framesAt c.line = []
  /-- The session has started, and its handshake has been confirmed. -/
  started : ∀ s, b.session = some s →
    s.isStarted = true ∧ Confirmed clientName (b.lines.framesAt s.line)
  /-- Every line carries a conversation. -/
  grammar : ∀ l, Conversation clientName (b.lines.framesAt l)

theorem orderly_ofEditor (e : Editor) (clientName : String) :
    Orderly clientName (ofEditor e clientName) where
  name := rfl
  distinct := List.nodup_nil
  exists_line c hc := by cases hc
  fresh c hc := by cases hc
  started s hs := by cases hs
  grammar l := conversation_nil

namespace Orderly

variable {after taken : Bridge} {e : Event}

/-- The session and the connections that wait are on different lines. -/
theorem line_ne (h : Orderly clientName b) {s : Session} (hs : b.session = some s)
    {c : Connection} (hc : c ∈ b.opening) : c.line ≠ s.line := by
  have hd := h.distinct
  simp only [held, hs, Option.map_some, Option.toList_some, List.singleton_append,
    List.map_cons, List.nodup_cons] at hd
  intro he
  exact hd.1 (List.mem_map.2 ⟨c, hc, he⟩)

/-- A step that queues frames on at most one line, and that leaves no connection of this line
waiting, keeps the invariant if what it leaves on the line is in order. -/
theorem of_line (l : Nat) (h : Orderly clientName b)
    (name : after.clientName = b.clientName) (length : after.lines.length = b.lines.length)
    (held : after.held.Sublist b.held) (opening : after.opening.Sublist b.opening)
    (others : ∀ m, m ≠ l → after.lines.framesAt m = b.lines.framesAt m)
    (gone : ∀ c ∈ after.opening, c.line ≠ l)
    (started : ∀ s, after.session = some s →
      s.isStarted = true ∧ Confirmed clientName (after.lines.framesAt s.line))
    (grammar : Conversation clientName (after.lines.framesAt l)) : Orderly clientName after where
  name := name.trans h.name
  distinct := (held.map Connection.line).nodup h.distinct
  exists_line c hc := by
    rw [length]
    exact h.exists_line c (held.subset hc)
  fresh c hc := by
    rw [others c.line (gone c hc)]
    exact h.fresh c (opening.subset hc)
  started := started
  grammar m := by
    by_cases hm : m = l
    · rw [hm]
      exact grammar
    · rw [others m hm]
      exact h.grammar m

/-- A step that queues nothing keeps the invariant if it starts no session. -/
theorem of_lines (h : Orderly clientName b) (name : after.clientName = b.clientName)
    (lines : after.lines = b.lines) (held : after.held.Sublist b.held)
    (opening : after.opening.Sublist b.opening)
    (session : ∀ s, after.session = some s → b.session = some s) : Orderly clientName after := by
  refine h.of_line b.lines.length name (by rw [lines]) held opening (fun m _ => by rw [lines])
    (fun c hc => ?_) (fun s hs => ?_) ?_
  -- the line behind all others stands for "no line"
  · have hmem : c ∈ b.held := List.mem_append_right _ (opening.subset hc)
    exact Nat.ne_of_lt (h.exists_line c hmem)
  · rw [lines]
    exact h.started s (session s hs)
  · rw [lines]
    exact h.grammar _

/-- The session can report and answer. -/
theorem of_queued (h : Orderly clientName b) {s : Session} (active : b.session = some s)
    {fs : List Frame} (hfs : ∀ f ∈ fs, f.IsReport ∨ f.IsAnswer)
    (name : after.clientName = b.clientName) (session : after.session = b.session)
    (opening : after.opening = b.opening) (queued : Queued s.line fs b.lines after.lines) :
    Orderly clientName after := by
  have hheld : after.held = b.held := by
    unfold held
    rw [session, opening]
  have hconf : Confirmed clientName (after.lines.framesAt s.line) := by
    rw [queued.frames]
    exact (h.started s active).2.append hfs
  refine h.of_line s.line name queued.length (by simp [hheld]) (by simp [opening])
    (fun m hm => queued.framesAt_of_ne hm) (fun c hc => ?_) (fun s' hs' => ?_) hconf.conversation
  · rw [opening] at hc
    exact h.line_ne active hc
  · rw [session, active] at hs'
    cases hs'
    exact ⟨(h.started s active).1, hconf⟩

theorem told (h : Orderly clientName b) (e : Editor) (ns : List ClientNotification) :
    Orderly clientName (b.told e ns) := by
  cases hs : b.session with
  | none =>
      have hl : (b.told e ns).lines = b.lines := lines_told_of_none b e ns hs
      exact h.of_lines rfl hl (by simp) (List.Sublist.refl _) fun _ hs => hs
  | some s =>
      obtain ⟨fs, hfs, hq⟩ := queued_told b e ns hs
      refine h.of_queued hs (fun f hf => ?_) rfl rfl rfl hq
      obtain ⟨n, -, hn⟩ := hfs f hf
      exact Or.inl ⟨n, hn⟩

/-- A connection that opens gets a line of its own, behind all others. -/
theorem receive_opened (h : Orderly clientName b) (id : Nat) (room : Option Nat) :
    Orderly clientName (b.receive (.opened id room)) := by
  have hframes : ∀ l, (b.receive (.opened id room)).lines.framesAt l = b.lines.framesAt l :=
    fun l => Rpc.Lines.framesAt_openLine l id room b.lines
  have hlength : (b.receive (.opened id room)).lines.length = b.lines.length + 1 :=
    Rpc.Lines.length_openLine id room b.lines
  have hheld := held_receive (.opened id room) b
  have hopening := opening_receive (.opened id room) b
  refine ⟨h.name, ?distinct, ?exists_line, ?fresh, fun s hs => ?started, fun l => ?grammar⟩
  case distinct =>
      refine (hheld.map Connection.line).nodup ?_
      rw [List.map_append]
      refine List.nodup_append.2 ⟨h.distinct, by simp [Signal.connection?], ?_⟩
      intro l hl m hm
      obtain ⟨c, hc, rfl⟩ := List.mem_map.1 hl
      simp only [Signal.connection?, Option.toList_some, List.map_cons, List.map_nil,
        List.mem_singleton] at hm
      rw [hm]
      exact Nat.ne_of_lt (h.exists_line c hc)
  case exists_line =>
      intro c hc
      rw [hlength]
      rcases List.mem_append.1 (hheld.subset hc) with hold | hnew
      · exact Nat.lt_succ_of_lt (h.exists_line c hold)
      · rw [List.mem_singleton.1 hnew]
        exact Nat.lt_succ_self _
  case fresh =>
      intro c hc
      rw [hframes]
      rcases List.mem_append.1 (hopening.subset hc) with hold | hnew
      · exact h.fresh c hold
      · -- There is no such line yet, so there are no frames on it.
        rw [List.mem_singleton.1 hnew]
        exact Rpc.Lines.framesAt_of_length_le (Nat.le_refl _)
  case started =>
      rw [hframes]
      exact h.started s hs
  case grammar =>
      rw [hframes]
      exact h.grammar l

theorem receive (h : Orderly clientName b) (sig : Signal) :
    Orderly clientName (b.receive sig) := by
  have quiet : ∀ e : Event, e.connection? = none →
      Orderly clientName { b with inbox := b.inbox.push e } := by
    intro e he
    have hopening := opening_push e b
    rw [he, Option.toList_none, List.append_nil] at hopening
    exact h.of_lines rfl rfl ((List.Sublist.refl _).append hopening) hopening fun _ hs => hs
  cases sig with
  | message id text => exact quiet (.message id text) rfl
  | closed id => exact quiet (.closed id) rfl
  | opened id room => exact h.receive_opened id room

/-- The next event is not on the line of the session, nor on that of one that waits behind it. -/
theorem next_opened (h : Orderly clientName b)
    (next : b.nextEvent = some (.opened c, taken)) :
    c ∈ b.opening ∧ (∀ d ∈ taken.opening, d.line ≠ c.line) := by
  have ho : b.opening = c :: taken.opening := by
    rw [Bridge.opening, (nextEvent_eq_some next).1]
    rfl
  have hd : ((c :: taken.opening).map Connection.line).Nodup := by
    rw [← ho]
    exact ((List.sublist_append_right _ _).map Connection.line).nodup h.distinct
  rw [ho]
  refine ⟨List.mem_cons_self, fun d hd' he => ?_⟩
  exact (List.nodup_cons.1 hd).1 (List.mem_map.2 ⟨d, hd', he⟩)

/-- The invariant after a handshake, with the session that it leaves, if any. -/
theorem afterHandshake (session : Option Session) (h : Orderly clientName b)
    (next : b.nextEvent = some (.opened c, taken))
    (started : ∀ s, session = some s → s.client.connection = c ∧ s.isStarted = true
      ∧ Confirmed clientName ((taken.handshake c limit).lines.framesAt c.line))
    (grammar : Conversation clientName ((taken.handshake c limit).lines.framesAt c.line)) :
    Orderly clientName { taken.afterHandshake c limit with session := session } := by
  obtain ⟨-, hgone⟩ := h.next_opened next
  obtain ⟨-, hname, hlines, -⟩ := nextEvent_keeps next
  obtain ⟨fs, hq, -⟩ := (taken.handshake_spec c limit).queued
  have hsub : (taken.afterHandshake c limit).opening.Sublist taken.opening :=
    (waiting_afterHandshake taken c limit).filterMap _
  have hopening : b.opening = c :: taken.opening := by
    rw [Bridge.opening, (nextEvent_eq_some next).1]
    rfl
  have hheld : held { taken.afterHandshake c limit with session := session }
      = (session.map (·.client.connection)).toList ++ (taken.afterHandshake c limit).opening := rfl
  refine h.of_line c.line ?name ?length ?held ?opening (fun m hm => ?others)
    (fun d hd => hgone d (hsub.subset hd)) (fun s hs => ?started) grammar
  case name => exact hname
  case length =>
      rw [← hlines]
      exact hq.length
  case held =>
      rw [hheld]
      refine List.Sublist.trans ?_ (List.sublist_append_right _ _)
      rw [hopening]
      -- a session takes over the handle of the opening
      cases hs : session with
      | none => exact hsub.trans (List.sublist_cons_self _ _)
      | some s =>
          rw [Option.map_some, (started s hs).1]
          exact hsub.cons_cons c
  case opening =>
      rw [hopening]
      exact hsub.trans (List.sublist_cons_self _ _)
  case others =>
      rw [← hlines]
      exact hq.framesAt_of_ne hm
  case started =>
      obtain ⟨hc, hstarted, hconf⟩ := started s hs
      refine ⟨hstarted, ?_⟩
      rw [show s.line = c.line from congrArg Connection.line hc]
      exact hconf

/-- Handling the next event keeps the invariant. -/
theorem handled (h : Orderly clientName b) (next : b.nextEvent = some (e, taken))
    {result : Except BridgeError (Option BridgeEvent)}
    (handling : Handling limit taken e result after) : Orderly clientName after := by
  obtain ⟨-, hname, hlines, hsession⟩ := nextEvent_keeps next
  have hopening : taken.opening.Sublist b.opening := by
    rw [Bridge.opening, Bridge.opening, (nextEvent_eq_some next).1]
    exact (List.sublist_cons_self _ _).filterMap _
  have htaken : Orderly clientName taken := by
    refine h.of_lines hname hlines ?_ hopening (fun s hs => hsession ▸ hs)
    rw [held, held, hsession]
    exact (List.Sublist.refl _).append hopening
  have hfresh : ∀ c, e = .opened c → taken.lines.framesAt c.line = [] := by
    rintro c rfl
    rw [hlines]
    exact h.fresh c (h.next_opened next).1
  cases handling with
  | @refused c err failed =>
      have hconv := ((framesAt_handshake htaken.name (hfresh c rfl)).2 err failed).conversation
      exact h.afterHandshake none next (fun s hs => by cases hs) hconv
  | @started c ok =>
      have hconf := (framesAt_handshake htaken.name (hfresh c rfl)).1 ok
      have hspec := taken.handshake_spec c limit
      rw [started_eq_told]
      -- the handshake first, then the two reports of the state
      refine ((h.afterHandshake (some (taken.handshake c limit).session) next (fun s hs => ?_)
        hconf.conversation).told _ _).told _ _
      cases hs
      exact ⟨hspec.connection, hspec.isStarted ok, hconf⟩
  | closed active =>
      exact htaken.of_lines rfl rfl (List.sublist_append_right _ _) (List.Sublist.refl _)
        (fun s hs => by cases hs)
  | @answered s text f lines active isAnswer sent =>
      have hanswer : ∀ g ∈ [f], g.IsReport ∨ g.IsAnswer := by
        intro g hg
        rw [List.mem_singleton.1 hg]
        exact Or.inr isAnswer
      exact htaken.of_queued active hanswer rfl rfl rfl (Rpc.Lines.queued_of_send sent)
  | applied =>
      exact htaken.of_lines rfl rfl (List.Sublist.refl _) (List.Sublist.refl _) fun _ hs => hs
  | ignored => exact htaken
  | stale => exact htaken

theorem dispatch (h : Orderly clientName b) : Orderly clientName b.dispatch := by
  rw [dispatch_eq_told]
  exact h.told _ _

theorem polling (h : Orderly clientName b) {result : Except BridgeError (Option BridgeEvent)}
    (hp : Polling limit b result after) : Orderly clientName after := by
  cases hp with
  | idle => exact h.dispatch
  | handled next handling => exact h.dispatch.handled next handling

/-- Whether a reader stops, or will never stop, makes no difference. -/
theorem of_framesAt {lines : Lines} (h : Orderly clientName b)
    (length : lines.length = b.lines.length)
    (frames : ∀ l, lines.framesAt l = b.lines.framesAt l) :
    Orderly clientName { b with lines := lines } where
  name := h.name
  distinct := h.distinct
  exists_line c hc := by
    show c.line < lines.length
    rw [length]
    exact h.exists_line c hc
  fresh c hc := by
    rw [frames]
    exact h.fresh c hc
  started s hs := by
    rw [frames]
    exact h.started s hs
  grammar l := by
    rw [frames]
    exact h.grammar l

theorem act (h : Orderly clientName b) (a : Action) : Orderly clientName (b.act a) := by
  cases a using Action.cases_kind with
  | transport a ha =>
      cases a with
      | signal sig => exact h.receive sig
      | hangUp =>
          exact h.of_lines rfl rfl (List.Sublist.refl _) (List.Sublist.refl _) fun _ hs => hs
      | stopReading id =>
          exact h.of_framesAt (Rpc.Lines.length_stopReading id b.lines)
            fun l => Rpc.Lines.framesAt_stopReading l id b.lines
      | _ => cases ha
  | poll limit => exact h.polling (polling_poll limit b)
  | call a ha =>
      rw [act_of_isCall ha b]
      exact h.told _ _

theorem run (h : Orderly clientName b) (as : List Action) : Orderly clientName (b.run as) :=
  run_induction (fun a _ h => h.act a) as h

/-- A connection that a poll retires is given up by it. -/
theorem givenUp (h : Orderly clientName b) (retires : b.Retires limit c) :
    (b.act (.poll limit)).GivenUp c.line := by
  have hsub := held_retires retires
  have hlt : c.line < b.lines.length := h.exists_line c (hsub.subset List.mem_cons_self)
  refine givenUp_of_not_mem_held ?_ ?_
  · show c.line < (b.poll limit).2.lines.length
    rw [length_polling (polling_poll limit b)]
    exact hlt
  · exact (List.nodup_cons.1 ((hsub.map Connection.line).nodup h.distinct)).1

/-- What a failed handshake leaves on its line. -/
theorem unconfirmed (h : Orderly clientName b) {err : BridgeError}
    (next : b.dispatch.nextEvent = some (.opened c, taken))
    (failed : (taken.handshake c limit).outcome = .error err) :
    Unconfirmed clientName ((b.act (.poll limit)).lines.framesAt c.line) := by
  obtain ⟨-, hname, hlines, -⟩ := nextEvent_keeps next
  have hfresh : taken.lines.framesAt c.line = [] := by
    rw [hlines]
    exact h.dispatch.fresh c (h.dispatch.next_opened next).1
  show Unconfirmed clientName ((b.poll limit).2.lines.framesAt c.line)
  rw [poll_of_next next, handled_opened, failed]
  exact (framesAt_handshake (hname.trans h.dispatch.name) hfresh).2 err failed

end Orderly

/-! ## Every run -/

/-- Whatever happens to a bridge: every line carries a conversation, a session that is held has
started, what a poll retires is given up, and a connection whose handshake fails is never sent a
report. -/
theorem conversation_of_run (e : Editor) (clientName : String) (as : List Action) {b : Bridge}
    (reached : (ofEditor e clientName).run as = b) :
    (∀ l, Conversation clientName (b.lines.framesAt l))
      ∧ (∀ s, b.session = some s → s.isStarted = true)
      ∧ (∀ limit c, b.Retires limit c → (b.act (.poll limit)).GivenUp c.line)
      ∧ (∀ limit c taken err, b.dispatch.nextEvent = some (.opened c, taken) →
          (taken.handshake c limit).outcome = .error err →
          ∀ more, ∀ f ∈ ((b.act (.poll limit)).run more).lines.framesAt c.line, ¬ f.IsReport) := by
  have h : Orderly clientName b := by
    rw [← reached]
    exact (orderly_ofEditor e clientName).run as
  -- what is given up stays as it is, so the last part need only look at the poll
  refine ⟨h.grammar, fun s hs => (h.started s hs).1, fun limit c => h.givenUp, ?_⟩
  intro limit c taken err next failed more
  have hlast := (h.givenUp (.refused next failed) more).2
  rw [hlast]
  exact (h.unconfirmed next failed).not_isReport

/-- A session gives way to a connection with which the handshake fails. -/
theorem conversation_of_run_replaced :
    ∃ b, (ofEditor .sample "page").run (Action.welcome 1 ++ [.signal (.opened 2 none)]) = b
      ∧ (∃ s, b.session = some s ∧ s.isStarted = true)
      ∧ (b.act (.poll (some 0))).GivenUp 0 ∧ (b.act (.poll (some 0))).GivenUp 1
      ∧ Conversation "page" (b.lines.framesAt 0)
      ∧ (∀ f ∈ (b.act (.poll (some 0))).lines.framesAt 1, ¬ f.IsReport) := by
  generalize hb : (ofEditor .sample "page").run (Action.welcome 1 ++ [.signal (.opened 2 none)]) = b
  have hsession : b.session.map (fun s => s.client.connection) = some ⟨1, 0⟩ := by
    rw [← hb]
    cbv
  have hnext : b.dispatch.nextEvent.map
      (fun p => (p.1, (p.2.handshake ⟨2, 1⟩ (some 0)).outcome))
        = some (.opened ⟨2, 1⟩, .error Session.tooLate) := by
    rw [← hb]
    cbv
  obtain ⟨s, hs, hc⟩ := Option.map_eq_some_iff.1 hsession
  obtain ⟨⟨next, taken⟩, next, hp⟩ := Option.map_eq_some_iff.1 hnext
  simp only [Prod.mk.injEq] at hp
  obtain ⟨rfl, failed⟩ := hp
  obtain ⟨grammar, started, givenUp, unreported⟩ := conversation_of_run .sample "page" _ hb
  refine ⟨b, rfl, ⟨s, hs, started s hs⟩, ?_, givenUp _ _ (.refused next failed), grammar 0,
    unreported _ _ taken _ next failed []⟩
  have hline := givenUp (some 0) s.client.connection (.replaced hs next)
  rwa [hc] at hline

end Bridge

end SurfaceBridge
