import Mathlib.Logic.Function.Iterate
import SurfaceBridge.Server.Worker

set_option autoImplicit false

/-! # Giving up

When all attempts to connect fail, a worker has no choice in what it does: it connects and waits
in turn, each time for the delay of the retry that comes next. With a limit on the retries it stops
after the attempt that follows the last of them (`of_limit`). Without a limit it never stops unless the
socket is dropped, and neither does it with the greatest limit there is: the count of the retries
stays at this limit and does not pass it (`exists_nextRetry`).
-/

namespace SurfaceBridge

namespace Server

/-! ## The next retry -/

namespace ReconnectOptions

variable {o : ReconnectOptions} {m r : UInt32}

theorem nextRetry_of_lt (limit : o.maxRetries = some m) (lt : r.toNat < m.toNat) :
    ∃ k, o.nextRetry r = some k ∧ k.toNat = r.toNat + 1 := by
  have hm : m.toNat < 4294967296 := m.toNat_lt
  have hne : r ≠ UInt32.ofNat (UInt32.size - 1) := by
    rintro rfl
    have hsize : (UInt32.ofNat (UInt32.size - 1)).toNat = 4294967295 := rfl
    omega
  have hnext : (r + 1).toNat = r.toNat + 1 := by
    rw [UInt32.toNat_add]
    show (r.toNat + 1) % 4294967296 = _
    omega
  refine ⟨r + 1, ?_, hnext⟩
  unfold nextRetry
  rw [if_neg hne, limit]
  refine if_neg fun h => ?_
  have hgt : m.toNat < (r + 1).toNat := h
  omega

theorem nextRetry_of_eq (limit : o.maxRetries = some m) (small : m.toNat < 4294967295)
    (eq : r.toNat = m.toNat) : o.nextRetry r = none := by
  have hne : r ≠ UInt32.ofNat (UInt32.size - 1) := by
    rintro rfl
    have hsize : (UInt32.ofNat (UInt32.size - 1)).toNat = 4294967295 := rfl
    omega
  unfold nextRetry
  rw [if_neg hne, limit]
  refine if_pos ?_
  show m.toNat < (r + 1).toNat
  rw [UInt32.toNat_add]
  show m.toNat < (r.toNat + 1) % 4294967296
  omega

/-- Without a limit, and with the greatest one, there is always another retry. -/
theorem exists_nextRetry (endless : ∀ m, o.maxRetries = some m → m = 4294967295) (r : UInt32) :
    ∃ k, o.nextRetry r = some k := by
  unfold nextRetry
  cases hm : o.maxRetries with
  | none => exact ⟨_, rfl⟩
  | some m =>
      have hlimit : m.toNat = 4294967295 := by
        rw [endless m hm]
        rfl
      refine ⟨_, if_neg fun h => ?_⟩
      have hlt : m.toNat < (if r = UInt32.ofNat (UInt32.size - 1) then r else r + 1).toNat := h
      have hle := (if r = UInt32.ofNat (UInt32.size - 1) then r else r + 1).toNat_lt
      omega

end ReconnectOptions

/-! ## Steps -/

/-- No attempt to connect succeeds, and the socket is not dropped. -/
structure Unlucky (hs : List Happening) : Prop where
  unconnected : ∀ room, .accepted room ∉ hs
  kept : .dropped ∉ hs

theorem Unlucky.head {h : Happening} {hs : List Happening} (u : Unlucky (h :: hs)) :
    (∀ room, h ≠ .accepted room) ∧ h ≠ .dropped :=
  ⟨fun room he => u.unconnected room (he ▸ List.mem_cons_self),
    fun he => u.kept (he ▸ List.mem_cons_self)⟩

theorem Unlucky.tail {h : Happening} {hs : List Happening} (u : Unlucky (h :: hs)) : Unlucky hs :=
  ⟨fun room he => u.unconnected room (List.mem_cons_of_mem h he),
    fun he => u.kept (List.mem_cons_of_mem h he)⟩

theorem unlucky_cons {h : Happening} {hs : List Happening}
    (unconnected : ∀ room, h ≠ .accepted room) (kept : h ≠ .dropped) (u : Unlucky hs) :
    Unlucky (h :: hs) := by
  refine ⟨fun room he => ?_, fun he => ?_⟩
  · rcases List.mem_cons.1 he with he | he
    · exact unconnected room he.symm
    · exact u.unconnected room he
  · rcases List.mem_cons.1 he with he | he
    · exact kept he.symm
    · exact u.kept he

namespace Worker

variable {o : ReconnectOptions} {m : UInt32} {w w' : Worker} {h : Happening} {hs : List Happening}

/-- What a worker is busy with when things happen to it, one after the other. -/
def tasks : List Happening → Worker → List Task
  | [], _ => []
  | h :: hs, w =>
    match w.step h with
    | none => []
    | some w' => w.task :: tasks hs w'

theorem run_cons : w.run (h :: hs) = some w' ↔ ∃ v, w.step h = some v ∧ v.run hs = some w' :=
  Option.bind_eq_some_iff

theorem tasks_cons {v : Worker} (step : w.step h = some v) :
    w.tasks (h :: hs) = w.task :: v.tasks hs := by
  rw [tasks, step]

/-- What a worker can do, by what it is busy with. -/
inductive Steps (w : Worker) : Happening → Worker → Prop where
  | refused (busy : w.task = .connect) : Steps w .refused w.retry
  | accepted {room : Option Nat} (busy : w.task = .connect) :
    Steps w (.accepted room) (w.connected room)
  | arrived {c : Rpc.Connection} {text : String} (busy : w.task = .serve c) :
    Steps w (.arrived text) (w.report (.message c.id text))
  | lost {c : Rpc.Connection} (busy : w.task = .serve c) : Steps w .lost (w.disconnected c)
  | elapsed {delay : UInt64} (busy : w.task = .wait delay) :
    Steps w .elapsed { w with task := .connect }
  | dropped (busy : w.task ≠ .stop) : Steps w .dropped w.halt

theorem step_iff : w.step h = some w' ↔ Steps w h w' := by
  constructor
  · intro step
    unfold Worker.step at step
    split at step
    · cases step
    next hstop => cases step; exact .dropped hstop
    next busy => cases step; exact .refused busy
    next busy => cases step; exact .accepted busy
    next busy => cases step; exact .arrived busy
    next busy => cases step; exact .lost busy
    next busy => cases step; exact .elapsed busy
    · cases step
  · intro step
    unfold Worker.step
    cases step with
    | refused busy => rw [busy]
    | accepted busy => rw [busy]
    | arrived busy => rw [busy]
    | lost busy => rw [busy]
    | elapsed busy => rw [busy]
    | dropped busy =>
        split
        next hstop => exact absurd hstop busy
        · rfl
        all_goals simp_all

theorem step_of_connect (busy : w.task = .connect) (unconnected : ∀ room, h ≠ .accepted room)
    (kept : h ≠ .dropped) (step : w.step h = some w') : h = .refused ∧ w' = w.retry := by
  cases step_iff.1 step with
  | refused => exact ⟨rfl, rfl⟩
  | accepted => exact absurd rfl (unconnected _)
  | arrived serving => exact nomatch busy.symm.trans serving
  | lost serving => exact nomatch busy.symm.trans serving
  | elapsed waiting => exact nomatch busy.symm.trans waiting
  | dropped => exact absurd rfl kept

theorem step_of_wait {delay : UInt64} (busy : w.task = .wait delay) (kept : h ≠ .dropped)
    (step : w.step h = some w') : h = .elapsed ∧ w' = { w with task := .connect } := by
  cases step_iff.1 step with
  | refused connecting => exact nomatch busy.symm.trans connecting
  | accepted connecting => exact nomatch busy.symm.trans connecting
  | arrived serving => exact nomatch busy.symm.trans serving
  | lost serving => exact nomatch busy.symm.trans serving
  | elapsed => exact ⟨rfl, rfl⟩
  | dropped => exact absurd rfl kept

theorem step_of_stop (busy : w.task = .stop) (h : Happening) : w.step h = none := by
  unfold Worker.step
  rw [busy]

theorem run_of_stop (busy : w.task = .stop) (run : w.run hs = some w') : hs = [] ∧ w' = w := by
  cases hs with
  | nil => exact ⟨rfl, (Option.some.inj run).symm⟩
  | cons h hs =>
      obtain ⟨v, hv, -⟩ := run_cons.1 run
      rw [step_of_stop busy] at hv
      cases hv

theorem retry_of_some {k : UInt32} (next : w.options.nextRetry w.retries = some k) :
    w.retry = { w with task := .wait (w.options.delay k), retries := k } := by
  unfold retry
  rw [next]

theorem retry_of_none (next : w.options.nextRetry w.retries = none) : w.retry = w.halt := by
  unfold retry
  rw [next]

/-! ## Rounds -/

/-- The last attempt: a worker that fails and has no retry left stops. -/
theorem round_of_none (busy : w.task = .connect) (next : w.options.nextRetry w.retries = none)
    (u : Unlucky (h :: hs)) (run : w.run (h :: hs) = some w') :
    h = .refused ∧ hs = [] ∧ w' = w.halt ∧ w.tasks (h :: hs) = [.connect] := by
  obtain ⟨v, hv, hrest⟩ := run_cons.1 run
  obtain ⟨rfl, rfl⟩ := step_of_connect busy u.head.1 u.head.2 hv
  rw [retry_of_none next] at hv hrest
  obtain ⟨rfl, rfl⟩ := run_of_stop rfl hrest
  refine ⟨rfl, rfl, rfl, ?_⟩
  rw [tasks_cons hv, busy]
  rfl

/-- An attempt before another one: a worker that fails and has a retry left waits for it. -/
theorem wait_of_some {k : UInt32} (busy : w.task = .connect)
    (next : w.options.nextRetry w.retries = some k) (u : Unlucky [h]) (run : w.run [h] = some w') :
    h = .refused ∧ w' = { w with task := .wait (w.options.delay k), retries := k }
      ∧ w.tasks [h] = [.connect] := by
  obtain ⟨v, hv, hrest⟩ := run_cons.1 run
  obtain ⟨rfl, rfl⟩ := step_of_connect busy u.head.1 u.head.2 hv
  cases hrest
  refine ⟨rfl, retry_of_some next, ?_⟩
  rw [tasks_cons hv, busy]
  rfl

/-- An attempt and the time of waiting behind it, after which a worker starts over with one retry
more. -/
theorem round_of_some {k : UInt32} {h' : Happening} (busy : w.task = .connect)
    (next : w.options.nextRetry w.retries = some k) (u : Unlucky (h :: h' :: hs))
    (run : w.run (h :: h' :: hs) = some w') :
    h = .refused ∧ h' = .elapsed
      ∧ ({ w with task := .connect, retries := k } : Worker).run hs = some w'
      ∧ w.tasks (h :: h' :: hs) = .connect :: .wait (w.options.delay k)
        :: ({ w with task := .connect, retries := k } : Worker).tasks hs := by
  obtain ⟨v, hv, hrest⟩ := run_cons.1 run
  obtain ⟨rfl, rfl⟩ := step_of_connect busy u.head.1 u.head.2 hv
  rw [retry_of_some next] at hv hrest
  obtain ⟨v, hv', hrest⟩ := run_cons.1 hrest
  obtain ⟨rfl, rfl⟩ := step_of_wait rfl u.tail.head.2 hv'
  refine ⟨rfl, rfl, hrest, ?_⟩
  rw [tasks_cons hv, tasks_cons hv', busy]

/-! ## With a limit -/

/-- What a worker is busy with that has made `r` retries and makes `n` more: it connects, and before
each retry it waits for the delay of this retry. -/
def schedule (o : ReconnectOptions) (r n : Nat) : List Task :=
  .connect :: (List.range' (r + 1) n).flatMap fun k => [.wait (o.delay (.ofNat k)), .connect]

theorem schedule_succ (o : ReconnectOptions) (r n : Nat) :
    schedule o r (n + 1)
      = .connect :: .wait (o.delay (.ofNat (r + 1))) :: schedule o (r + 1) n := by
  rw [schedule, List.range'_succ, List.flatMap_cons]
  rfl

theorem length_schedule (o : ReconnectOptions) (r n : Nat) :
    (schedule o r n).length = 2 * n + 1 := by
  induction n generalizing r with
  | zero => rfl
  | succ n ih =>
      rw [schedule_succ, List.length_cons, List.length_cons, ih]
      omega

theorem count_schedule (o : ReconnectOptions) (r n : Nat) :
    (schedule o r n).count .connect = n + 1 := by
  induction n generalizing r with
  | zero => rfl
  | succ n ih => rw [schedule_succ, List.count_cons_self, List.count_cons_of_ne (by simp), ih]

theorem ne_stop_of_nil (busy : w.task = .connect) (run : w.run [] = some w') : w'.task ≠ .stop := by
  cases run
  rw [busy]
  exact nofun

/-- A worker that can make `n` more retries keeps to the schedule and stops at its end. -/
theorem of_limit (limit : w.options.maxRetries = some m) (small : m.toNat < 4294967295) {n : Nat}
    (busy : w.task = .connect) (left : w.retries.toNat + n = m.toNat) (u : Unlucky hs)
    (run : w.run hs = some w') :
    w.tasks hs = (schedule w.options w.retries.toNat n).take hs.length ∧ hs.length ≤ 2 * n + 1
      ∧ (w'.task = .stop ↔ hs.length = 2 * n + 1) := by
  induction n generalizing w hs with
  | zero =>
      cases hs with
      | nil =>
          have hgoes := ne_stop_of_nil busy run
          exact ⟨rfl, Nat.zero_le _, fun h => absurd h hgoes, fun h => (by cases h)⟩
      | cons h hs =>
          have hnone := ReconnectOptions.nextRetry_of_eq limit small left
          obtain ⟨rfl, rfl, rfl, htasks⟩ := round_of_none busy hnone u run
          exact ⟨htasks, Nat.le_refl 1, fun _ => rfl, fun _ => rfl⟩
  | succ n ih =>
      obtain ⟨k, hk, hcount⟩ := ReconnectOptions.nextRetry_of_lt (r := w.retries) limit (by omega)
      match hs with
      | [] =>
          have hgoes := ne_stop_of_nil busy run
          exact ⟨rfl, Nat.zero_le _, fun h => absurd h hgoes, fun h => (by simp at h)⟩
      | [h] =>
          obtain ⟨rfl, rfl, htasks⟩ := wait_of_some busy hk u run
          exact ⟨htasks, by simp, fun h => (by cases h), fun h => (by simp at h)⟩
      | h :: h' :: hs =>
          -- a whole round is over, and the run behind it has one retry less to make
          obtain ⟨rfl, rfl, hrest, htasks⟩ := round_of_some busy hk u run
          have hnumber : UInt32.ofNat (w.retries.toNat + 1) = k := by
            rw [← hcount, UInt32.ofNat_toNat]
          have hleft : k.toNat + n = m.toNat := by omega
          obtain ⟨ihtasks, ihlength, ihstop⟩ :=
            ih (w := { w with task := .connect, retries := k }) limit rfl hleft u.tail.tail hrest
          rw [htasks, ihtasks, schedule_succ, hnumber, ← hcount]
          refine ⟨rfl, ?_, ihstop.trans ?_⟩
          · simp only [List.length_cons]
            omega
          · simp only [List.length_cons]
            omega

/-! ## Silence -/

theorem inbox_retry (w : Worker) :
    w.retry.inbox.events = w.inbox.events ∧ w.retry.lines = w.lines
      ∧ (∀ c, w.retry.task ≠ .serve c) := by
  unfold retry
  split <;> exact ⟨rfl, rfl, nofun⟩

/-- As long as no attempt succeeds, nothing is reported and there is no line. -/
theorem silent_of_run (idle : ∀ c, w.task ≠ .serve c) (u : Unlucky hs) (run : w.run hs = some w') :
    w'.inbox.events = w.inbox.events ∧ w'.lines = w.lines := by
  induction hs generalizing w with
  | nil =>
      cases run
      exact ⟨rfl, rfl⟩
  | cons h hs ih =>
      obtain ⟨v, hv, hrest⟩ := run_cons.1 run
      cases hw : w.task with
      | connect =>
          obtain ⟨-, rfl⟩ := step_of_connect hw u.head.1 u.head.2 hv
          obtain ⟨hevents, hlines, hidle⟩ := inbox_retry w
          obtain ⟨ihevents, ihlines⟩ := ih hidle u.tail hrest
          exact ⟨ihevents.trans hevents, ihlines.trans hlines⟩
      | wait delay =>
          obtain ⟨-, rfl⟩ := step_of_wait hw u.head.2 hv
          exact ih (w := { w with task := .connect }) nofun u.tail hrest
      | serve c => exact absurd hw (idle c)
      | stop =>
          rw [step_of_stop hw] at hv
          cases hv

/-! ## Stopping -/

/-- The inbox is closed when the worker has stopped, and not before. -/
def Closes (w : Worker) : Prop := w.inbox.hungUp = true ↔ w.task = .stop

theorem hungUp_push (e : Event) (i : Inbox) : (i.push e).hungUp = i.hungUp := by
  unfold Inbox.push
  split <;> rfl

theorem closes_halt (w : Worker) : w.halt.Closes := ⟨fun _ => rfl, fun _ => rfl⟩

theorem closes_retry (open_ : w.inbox.hungUp = false) : w.retry.Closes := by
  unfold retry
  split
  · exact closes_halt w
  · exact ⟨fun h => absurd (open_.symm.trans h) (by simp), fun h => (by cases h)⟩

theorem closes_step (closes : w.Closes) (step : w.step h = some w') : w'.Closes := by
  have hopen : w.task ≠ .stop → w.inbox.hungUp = false :=
    fun hbusy => Bool.eq_false_iff.2 fun h => hbusy (closes.1 h)
  cases step_iff.1 step with
  | refused busy => exact closes_retry (hopen (by rw [busy]; exact nofun))
  | accepted busy =>
      refine ⟨fun h => ?_, fun h => (by cases h)⟩
      have hclosed : w.inbox.hungUp = true := (hungUp_push _ w.inbox).symm.trans h
      rw [hopen (by rw [busy]; exact nofun)] at hclosed
      cases hclosed
  | arrived busy =>
      refine ⟨fun h => ?_, fun h => ?_⟩
      · exact closes.1 ((hungUp_push _ w.inbox).symm.trans h)
      · exact (hungUp_push _ w.inbox).trans (closes.2 h)
  | lost busy =>
      refine closes_retry ((hungUp_push _ w.inbox).trans (hopen ?_))
      rw [busy]
      exact nofun
  | elapsed busy =>
      refine ⟨fun h => ?_, fun h => (by cases h)⟩
      have hstop := closes.1 h
      rw [busy] at hstop
      cases hstop
  | dropped busy => exact closes_halt w

theorem closes_run (closes : w.Closes) (run : w.run hs = some w') : w'.Closes := by
  induction hs generalizing w with
  | nil =>
      cases run
      exact closes
  | cons h hs ih =>
      obtain ⟨v, hv, hrest⟩ := run_cons.1 run
      exact ih (closes_step closes hv) hrest

/-- What is found in an inbox without events, now and whenever the next event is asked for again. -/
theorem next_of_empty {i : Inbox} (empty : i.events = []) (k : Nat) :
    ((fun i => i.next.2)^[k] i).next.1
      = if i.hungUp then .error .transportClosed else .ok none := by
  have hnext : i.next = (if i.hungUp then .error .transportClosed else .ok none, i) := by
    unfold Inbox.next
    rw [empty]
  have hfixed : (fun i => i.next.2)^[k] i = i := Function.iterate_fixed (congrArg Prod.snd hnext) k
  rw [hfixed, hnext]

/-! ## Setbacks -/

theorem unlucky_setback (busy : w.task ≠ .stop) : Unlucky [w.setback] := by
  unfold setback
  cases hw : w.task with
  | connect => exact ⟨by simp, by simp⟩
  | serve c => exact ⟨by simp, by simp⟩
  | wait delay => exact ⟨by simp, by simp⟩
  | stop => exact absurd hw busy

/-- A worker that has not stopped can go on without luck. -/
theorem exists_setback (busy : w.task ≠ .stop) : ∃ w', w.step w.setback = some w' := by
  unfold setback
  cases hw : w.task with
  | connect => exact ⟨_, step_iff.2 (.refused hw)⟩
  | serve c => exact ⟨_, step_iff.2 (.lost hw)⟩
  | wait delay => exact ⟨_, step_iff.2 (.elapsed hw)⟩
  | stop => exact absurd hw busy

/-- Setbacks are a run, which goes on until the worker stops. -/
theorem exists_run_afterSetbacks (n : Nat) (w : Worker) :
    ∃ hs, Unlucky hs ∧ w.run hs = some (w.afterSetbacks n)
      ∧ ((w.afterSetbacks n).task = .stop ∨ hs.length = n) := by
  induction n generalizing w with
  | zero => exact ⟨[], ⟨nofun, nofun⟩, rfl, Or.inr rfl⟩
  | succ n ih =>
      by_cases hw : w.task = .stop
      · have hsame : w.afterSetbacks (n + 1) = w := by
          rw [afterSetbacks, step_of_stop hw]
        rw [hsame]
        exact ⟨[], ⟨nofun, nofun⟩, rfl, Or.inl hw⟩
      · obtain ⟨v, hv⟩ := exists_setback hw
        have hnext : w.afterSetbacks (n + 1) = v.afterSetbacks n := by
          rw [afterSetbacks, hv]
        obtain ⟨hs, hu, hrun, hend⟩ := ih v
        have hhead := (unlucky_setback hw).head
        rw [hnext]
        refine ⟨w.setback :: hs, unlucky_cons hhead.1 hhead.2 hu, run_cons.2 ⟨v, hv, hrun⟩, ?_⟩
        exact hend.imp_right fun hlength => by rw [List.length_cons, hlength]

/-! ## Without a limit -/

theorem goesOn_retry (endless : ∀ r, ∃ k, w.options.nextRetry r = some k) :
    w.retry.task ≠ .stop ∧ w.retry.options = w.options := by
  obtain ⟨k, hk⟩ := endless w.retries
  rw [retry_of_some hk]
  exact ⟨nofun, rfl⟩

/-- A worker for which there is always another retry does not stop unless the socket is dropped,
with connections or without. -/
theorem ne_stop_of_run (endless : ∀ r, ∃ k, w.options.nextRetry r = some k) (busy : w.task ≠ .stop)
    (kept : .dropped ∉ hs) (run : w.run hs = some w') : w'.task ≠ .stop := by
  induction hs generalizing w with
  | nil =>
      cases run
      exact busy
  | cons h hs ih =>
      obtain ⟨v, hv, hrest⟩ := run_cons.1 run
      have hkept : h ≠ .dropped := fun he => kept (he ▸ List.mem_cons_self)
      have hgo : v.task ≠ .stop ∧ v.options = w.options := by
        cases step_iff.1 hv with
        | refused => exact goesOn_retry endless
        | accepted => exact ⟨nofun, rfl⟩
        | arrived serving => exact ⟨busy, rfl⟩
        | lost serving => exact goesOn_retry endless
        | elapsed => exact ⟨nofun, rfl⟩
        | dropped => exact absurd rfl hkept
      obtain ⟨hbusy, hoptions⟩ := hgo
      exact ih (by rwa [hoptions]) hbusy (fun he => kept (List.mem_cons_of_mem h he)) hrest

/-! ## In time -/

/-- How long a worker waits altogether, in milliseconds. -/
def waited : List Task → Nat
  | [] => 0
  | .wait delay :: ts => delay.toNat + waited ts
  | _ :: ts => waited ts

/-- A worker can stop without luck after at most `n` attempts and `left` milliseconds of waiting. -/
def Stops (w : Worker) (n left : Nat) : Prop :=
  ∃ hs w', Unlucky hs ∧ w.run hs = some w' ∧ w'.task = .stop
    ∧ (w.tasks hs).count .connect ≤ n ∧ waited (w.tasks hs) ≤ left

theorem not_stops_zero (busy : w.task = .connect) (left : Nat) : ¬w.Stops 0 left := by
  rintro ⟨hs, w', u, run, hstop, hcount, -⟩
  cases hs with
  | nil => exact ne_stop_of_nil busy run hstop
  | cons h hs =>
      obtain ⟨v, hv, -⟩ := run_cons.1 run
      rw [tasks_cons hv, busy, List.count_cons_self] at hcount
      omega

theorem stops_of_none (busy : w.task = .connect) (next : w.options.nextRetry w.retries = none)
    (n left : Nat) : w.Stops (n + 1) left := by
  have hstep : w.step .refused = some w.halt :=
    (step_iff.2 (.refused busy)).trans (congrArg some (retry_of_none next))
  have htasks : w.tasks [.refused] = [.connect] := by
    rw [tasks_cons hstep, busy]
    rfl
  refine ⟨[.refused], w.halt, ⟨by simp, by simp⟩, run_cons.2 ⟨w.halt, hstep, rfl⟩, rfl, ?_, ?_⟩
  · rw [htasks]
    exact Nat.succ_le_succ (Nat.zero_le n)
  · rw [htasks]
    exact Nat.zero_le left

/-- With a retry left, a worker stops in time if the delay is not too long and it stops in the time
that is left then. -/
theorem stops_of_some {k : UInt32} (busy : w.task = .connect)
    (next : w.options.nextRetry w.retries = some k) {n left : Nat} :
    w.Stops (n + 1) left ↔ (w.options.delay k).toNat ≤ left
      ∧ ({ w with task := .connect, retries := k } : Worker).Stops n
        (left - (w.options.delay k).toNat) := by
  constructor
  · rintro ⟨hs, w', u, run, hstop, hcount, hwaited⟩
    match hs with
    | [] => exact absurd hstop (ne_stop_of_nil busy run)
    | [h] =>
        obtain ⟨-, rfl, -⟩ := wait_of_some busy next u run
        cases hstop
    | h :: h' :: hs =>
        obtain ⟨rfl, rfl, hrest, htasks⟩ := round_of_some busy next u run
        rw [htasks, List.count_cons_self, List.count_cons_of_ne (by simp)] at hcount
        have hsum : waited (w.tasks (.refused :: .elapsed :: hs)) = (w.options.delay k).toNat
            + waited (({ w with task := .connect, retries := k } : Worker).tasks hs) := by
          rw [htasks]
          rfl
        rw [hsum] at hwaited
        exact ⟨by omega, hs, w', u.tail.tail, hrest, hstop, by omega, by omega⟩
  · rintro ⟨hdelay, hs, w', u, run, hstop, hcount, hwaited⟩
    have hwait : w.step .refused
        = some { w with task := .wait (w.options.delay k), retries := k } :=
      (step_iff.2 (.refused busy)).trans (congrArg some (retry_of_some next))
    have hu : Unlucky (.refused :: .elapsed :: hs) :=
      unlucky_cons nofun nofun (unlucky_cons nofun nofun u)
    have hrun : w.run (.refused :: .elapsed :: hs) = some w' :=
      run_cons.2 ⟨_, hwait, run_cons.2 ⟨_, step_iff.2 (.elapsed rfl), run⟩⟩
    obtain ⟨-, -, -, htasks⟩ := round_of_some busy next hu hrun
    refine ⟨_, w', hu, hrun, hstop, ?_, ?_⟩
    · rw [htasks, List.count_cons_self, List.count_cons_of_ne (by simp)]
      exact Nat.succ_le_succ hcount
    · rw [htasks, waited, waited]
      · omega
      · exact nofun

/-- A worker is said to give up in time if this is a way for it to stop without luck. -/
theorem givesUp_iff {n left : Nat} (busy : w.task = .connect) :
    w.options.givesUp n left w.retries = true ↔ w.Stops n left := by
  induction n generalizing w left with
  | zero => exact ⟨nofun, fun h => absurd h (not_stops_zero busy left)⟩
  | succ n ih =>
      cases hnext : w.options.nextRetry w.retries with
      | none =>
          have hgives : w.options.givesUp (n + 1) left w.retries = true := by
            rw [ReconnectOptions.givesUp, hnext]
          exact ⟨fun _ => stops_of_none busy hnext n left, fun _ => hgives⟩
      | some k =>
          have hgives : w.options.givesUp (n + 1) left w.retries
              = if left < (w.options.delay k).toNat then false
                else w.options.givesUp n (left - (w.options.delay k).toNat) k := by
            rw [ReconnectOptions.givesUp, hnext]
          have hrest : w.options.givesUp n (left - (w.options.delay k).toNat) k = true
              ↔ ({ w with task := .connect, retries := k } : Worker).Stops n
                (left - (w.options.delay k).toNat) :=
            ih (w := { w with task := .connect, retries := k }) rfl
          rw [hgives, stops_of_some busy hnext, ← hrest]
          by_cases hdelay : left < (w.options.delay k).toNat
          · rw [if_pos hdelay]
            exact ⟨nofun, fun h => absurd h.1 (Nat.not_le.2 hdelay)⟩
          · rw [if_neg hdelay]
            exact (and_iff_right (Nat.not_lt.1 hdelay)).symm

/-! ## New sockets -/

theorem start_ne_serve (o : ReconnectOptions) (c : Rpc.Connection) : (start o).task ≠ .serve c := by
  show Task.connect ≠ .serve c
  exact nofun

theorem start_ne_stop (o : ReconnectOptions) : (start o).task ≠ .stop := by
  show Task.connect ≠ .stop
  exact nofun

theorem closes_start (o : ReconnectOptions) : (start o).Closes := by
  show false = true ↔ Task.connect = .stop
  exact ⟨nofun, nofun⟩

/-- How the worker of a new socket fares with a limit of `m` retries when all attempts fail. It
keeps to the schedule and is at its end when it stops. Nothing is reported, and an event cannot
follow as soon as the worker has stopped; before that it goes on. -/
structure GivesUp (o : ReconnectOptions) (m : Nat) (hs : List Happening) (w : Worker) : Prop where
  tasks : (start o).tasks hs = (schedule o 0 m).take hs.length
  length_le : hs.length ≤ 2 * m + 1
  stops_iff : w.task = .stop ↔ hs.length = 2 * m + 1
  attempts : w.task = .stop → ((start o).tasks hs).count .connect = m + 1
  silent : w.inbox.events = [] ∧ w.lines = []
  closed : w.task = .stop →
    ∀ k, ((fun i => i.next.2)^[k] w.inbox).next.1 = .error .transportClosed
  goesOn : w.task ≠ .stop → w.inbox.next.1 = .ok none
    ∧ ∃ h w', Unlucky [h] ∧ w.step h = some w'

theorem givesUp_of_run (limit : o.maxRetries = some m) (small : m.toNat < 4294967295)
    (u : Unlucky hs) (run : (start o).run hs = some w) : GivesUp o m.toNat hs w := by
  obtain ⟨htasks, hlength, hstop⟩ := of_limit (n := m.toNat) limit small rfl (Nat.zero_add _) u run
  have htasks' : (start o).tasks hs = (schedule o 0 m.toNat).take hs.length := htasks
  have hsilent := silent_of_run (start_ne_serve o) u run
  have hcloses : w.Closes := closes_run (closes_start o) run
  have hnext := next_of_empty hsilent.1
  refine ⟨htasks', hlength, hstop, fun h => ?attempts, hsilent, fun h k => ?closed,
    fun h => ⟨?waits, ?goes⟩⟩
  case attempts =>
      rw [htasks', hstop.1 h, ← length_schedule o 0, List.take_length, count_schedule]
  case closed =>
      rw [hnext k, if_pos (hcloses.2 h)]
  case waits =>
      exact (hnext 0).trans (if_neg fun hup => h (hcloses.1 hup))
  case goes =>
      obtain ⟨w', hw'⟩ := exists_setback h
      exact ⟨w.setback, w', unlucky_setback h, hw'⟩

/-- When all attempts fail and the socket is kept, a worker with a limit below the greatest one
gives up: it stops after one attempt and as many retries as the limit allows. Without a limit it
does not stop as long as the socket is kept, whether attempts fail or not. -/
theorem givesUp_of_limit (o : ReconnectOptions) :
    (∀ m, o.maxRetries = some m → m.toNat < 4294967295 →
      (∃ hs w, Unlucky hs ∧ (start o).run hs = some w ∧ w.task = .stop)
      ∧ ∀ hs w, Unlucky hs → (start o).run hs = some w → GivesUp o m.toNat hs w)
    ∧ (o.maxRetries = none → ∀ hs w, .dropped ∉ hs → (start o).run hs = some w →
      w.task ≠ .stop ∧ ∃ h w', h ≠ .dropped ∧ w.step h = some w') := by
  refine ⟨fun m limit small => ⟨?stops, fun hs w u run => givesUp_of_run limit small u run⟩,
    fun none hs w kept run => ?endless⟩
  case stops =>
      obtain ⟨hs, hu, hrun, hend⟩ := exists_run_afterSetbacks (2 * m.toNat + 1) (start o)
      have hgives := givesUp_of_run limit small hu hrun
      exact ⟨hs, _, hu, hrun, hend.elim id hgives.stops_iff.2⟩
  case endless =>
      have hendless : ∀ k, o.maxRetries = some k → k = 4294967295 := fun k hk => by
        rw [none] at hk
        cases hk
      have hbusy : w.task ≠ .stop :=
        ne_stop_of_run (ReconnectOptions.exists_nextRetry hendless) (start_ne_stop o) kept run
      obtain ⟨w', hw'⟩ := exists_setback hbusy
      exact ⟨hbusy, w.setback, w', (unlucky_setback hbusy).head.2, hw'⟩

/-- Two retries: three attempts, and the delays of both retries between them. -/
theorem givesUp_of_limit_two :
    ∃ o : ReconnectOptions, ∃ hs w, o.maxRetries = some 2
      ∧ hs = [.refused, .elapsed, .refused, .elapsed, .refused] ∧ Unlucky hs
      ∧ (start o).run hs = some w ∧ w.task = .stop
      ∧ (start o).tasks hs = [.connect, .wait (o.delay 1), .connect, .wait (o.delay 2), .connect]
      ∧ w.inbox.next.1 = .error .transportClosed := by
  obtain ⟨hlimit, -⟩ := givesUp_of_limit { maxRetries := some 2 }
  obtain ⟨-, hgives⟩ := hlimit 2 rfl (by decide)
  have hu : Unlucky [.refused, .elapsed, .refused, .elapsed, .refused] := ⟨by simp, by simp⟩
  have hrun : (start { maxRetries := some 2 }).run
      [.refused, .elapsed, .refused, .elapsed, .refused]
      = some ((start { maxRetries := some 2 }).afterSetbacks 5) := rfl
  have h := hgives _ _ hu hrun
  have hstop := h.stops_iff.2 rfl
  exact ⟨_, _, _, rfl, rfl, hu, hrun, hstop, h.tasks, h.closed hstop 0⟩

/-- With the greatest limit a worker never gives up: its count of the retries does not pass it. -/
theorem not_givesUp_greatest :
    ¬∃ hs w, Unlucky hs ∧ (start { maxRetries := some 4294967295 }).run hs = some w
      ∧ w.task = .stop := by
  rintro ⟨hs, w, hu, hrun, hstop⟩
  refine ne_stop_of_run (ReconnectOptions.exists_nextRetry fun m hm => ?_) (start_ne_stop _) hu.kept
    hrun hstop
  exact (Option.some.inj hm).symm

end Worker

end Server

end SurfaceBridge
