import SurfaceBridge.Protocol.Error
import SurfaceBridge.Rpc.Line

set_option autoImplicit false

/-! # Clients

A client numbers its requests and queues frames on the line of its connection. A frame that the
line does not accept is an error, but the number of a request is used up all the same.
-/

namespace SurfaceBridge

namespace Rpc

/-- A client of one connection, and the number of its next request. -/
structure Client where
  connection : Connection
  nextId : Nat
deriving DecidableEq

namespace Client

/-- The client of a new connection. Requests are numbered from one. -/
def ofConnection (c : Connection) : Client := ⟨c, 1⟩

/-- Queues a frame. -/
def send (c : Client) (f : Frame) (lines : Lines) : Except BridgeError Lines :=
  match lines.send c.connection f with
  | none => .error (.connectionClosed c.connection.id)
  | some lines => .ok lines

/-- The client after one more request. -/
def advance (c : Client) : Client :=
  { c with nextId := Counter.next Counter.limit64 c.nextId }

/-- Queues a request under the next number. -/
def request (c : Client) (method : String) (params : Json) (lines : Lines) :
    Client × Except BridgeError (Nat × Lines) :=
  (c.advance, (c.send (.request c.nextId method params) lines).map fun lines => (c.nextId, lines))

/-- Answers a request of the server. -/
def answer (c : Client) (id : Json) (method : String) (params : Json) (lines : Lines) :
    Except BridgeError Lines :=
  c.send (.answer id method params) lines

end Client

end Rpc

end SurfaceBridge
