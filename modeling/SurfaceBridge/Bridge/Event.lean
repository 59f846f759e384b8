import SurfaceBridge.Rpc.Line

set_option autoImplicit false

/-! # Transport events

The transport reports connections that open, messages that arrive and connections that close.
Events wait in an inbox until they are read. When the transport has hung up, the events that
wait can still be read, but no event can follow.
-/

namespace SurfaceBridge

/-- What the transport reports. An opened connection comes with its handle. -/
inductive Event where
  | opened (connection : Rpc.Connection)
  | message (id : Nat) (text : String)
  | closed (id : Nat)
deriving DecidableEq

/-- The id of the connection that an event belongs to. -/
def Event.id : Event → Nat
  | .opened c => c.id
  | .message id _ => id
  | .closed id => id

/-- The events that wait to be read, the oldest first, and whether the transport has hung up. -/
structure Inbox where
  events : List Event
  hungUp : Bool
deriving DecidableEq

namespace Inbox

/-- No events yet. -/
def empty : Inbox := ⟨[], false⟩

/-- Adds an event, which is lost if the transport has hung up. -/
def push (e : Event) (i : Inbox) : Inbox :=
  if i.hungUp then i else { i with events := i.events ++ [e] }

/-- The transport hangs up. -/
def hangUp (i : Inbox) : Inbox := { i with hungUp := true }

end Inbox

end SurfaceBridge
