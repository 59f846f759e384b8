import SurfaceBridge.Bridge.Event
import SurfaceBridge.Protocol.Error
import SurfaceBridge.Server.Reconnect

set_option autoImplicit false

/-! # The worker of a socket

A socket has a worker that keeps it connected. The worker tries to connect. When that succeeds, it
reports the connection, passes on what arrives, and reports that the connection is gone. After an
attempt that failed and after a connection that is gone it waits and tries again, unless it has
done so too often since the last connection. Then it stops, and no event can follow.

A worker acts on what happens around it. What happens while it is busy with something else is no
business of the worker: an attempt fails only while the worker tries to connect.
-/

namespace SurfaceBridge

/-- What is found in an inbox when the next event is asked for: an event, none so far, or that none
can follow. -/
def Inbox.next (i : Inbox) : Except BridgeError (Option Event) × Inbox :=
  match i.events with
  | e :: rest => (.ok (some e), { i with events := rest })
  | [] => (if i.hungUp then .error .transportClosed else .ok none, i)

namespace Server

/-- What a worker is busy with. It waits for a time in milliseconds. -/
inductive Task where
  | connect
  | serve (c : Rpc.Connection)
  | wait (delay : UInt64)
  | stop
deriving DecidableEq

/-- What can happen to a worker: an attempt to connect fails, or it succeeds and the connection
takes so many frames; a message arrives; the connection is gone, or nobody holds it any more; a
time of waiting is over; the socket is dropped. -/
inductive Happening where
  | refused
  | accepted (room : Option Nat)
  | arrived (text : String)
  | lost
  | elapsed
  | dropped
deriving DecidableEq

/-- A worker: what it is busy with, the id of its next connection, how often it has tried again since
the last one, and the inbox and the lines of the socket. -/
structure Worker where
  options : ReconnectOptions
  task : Task := .connect
  nextId : Nat := 1
  retries : UInt32 := 0
  inbox : Inbox := .empty
  lines : Rpc.Lines := []

namespace Worker

/-- The worker of a new socket. -/
def start (options : ReconnectOptions) : Worker := { options := options }

/-- Reports an event. -/
def report (e : Event) (w : Worker) : Worker := { w with inbox := w.inbox.push e }

/-- Stops. -/
def halt (w : Worker) : Worker := { w with task := .stop, inbox := w.inbox.hangUp }

/-- Waits before the next retry, or stops if there is none. -/
def retry (w : Worker) : Worker :=
  match w.options.nextRetry w.retries with
  | none => w.halt
  | some retry => { w with task := .wait (w.options.delay retry), retries := retry }

/-- A connection with room for so many frames has come about. -/
def connected (room : Option Nat) (w : Worker) : Worker :=
  let (c, lines) := w.lines.openLine w.nextId room
  ({ w with task := .serve c, nextId := w.nextId + 1, retries := 0, lines := lines }).report
    (.opened c)

/-- A connection is gone. -/
def disconnected (c : Rpc.Connection) (w : Worker) : Worker :=
  (({ w with lines := w.lines.stopReading c.id }).report (.closed c.id)).retry

/-- A worker after something has happened, if that can happen to it. -/
def step (h : Happening) (w : Worker) : Option Worker :=
  match w.task, h with
  | .stop, _ => none
  | _, .dropped => some w.halt
  | .connect, .refused => some w.retry
  | .connect, .accepted room => some (w.connected room)
  | .serve c, .arrived text => some (w.report (.message c.id text))
  | .serve c, .lost => some (w.disconnected c)
  | .wait _, .elapsed => some { w with task := .connect }
  | _, _ => none

/-- A worker after things have happened one after the other, if they can. -/
def run : List Happening → Worker → Option Worker
  | [], w => some w
  | h :: hs, w => (w.step h).bind (run hs)

/-- What happens to a worker on bad days: what it tries fails, and what it has is lost. -/
def setback (w : Worker) : Happening :=
  match w.task with
  | .connect => .refused
  | .serve _ => .lost
  | .wait _ => .elapsed
  | .stop => .dropped

/-- A worker after so many setbacks, or after fewer if it stops before. -/
def afterSetbacks : Nat → Worker → Worker
  | 0, w => w
  | n + 1, w =>
    match w.step w.setback with
    | none => w
    | some w => afterSetbacks n w

end Worker

end Server

end SurfaceBridge
