import SurfaceBridge.Editor.Workspace
import SurfaceBridge.Protocol.ServerNotification
import SurfaceBridge.Rpc.Message

set_option autoImplicit false

/-! # Errors of the protocol

Everything that can go wrong between the editor and the server.
-/

namespace SurfaceBridge

/-- An error of the protocol. -/
inductive BridgeError where
  | malformedMessage (error : Rpc.MessageError)
  | payload (error : PayloadError)
  | invalidPattern (pattern : String)
  | handshakeRefused (message : String)
  | timeout (what : String)
  | connectionClosed (id : Nat)
  | transportClosed
  | surfaceNotOpen (error : SurfaceNotOpen)

namespace BridgeError

/-- How a connection is named. -/
def connectionName (id : Nat) : String := "#" ++ String.ofList (Json.naturalText id)

/-- The sentence for an error. The place in a malformed text is not told. -/
def message : BridgeError → String
  | malformedMessage e => "malformed JSON-RPC message: " ++ e.reason
  | payload (.malformed method p) => "malformed payload for '" ++ method ++ "': " ++ p.message
  | payload (.unexpected method expected) =>
    "unexpected payload for '" ++ method ++ "': expected " ++ expected
  | invalidPattern pattern => "invalid token pattern '" ++ pattern ++ "'"
  | handshakeRefused text => "initialize failed: " ++ text
  | timeout what => "timed out waiting for " ++ what
  | connectionClosed id => "connection " ++ connectionName id ++ " closed"
  | transportClosed => "transport has no more events"
  | surfaceNotOpen e => e.message

end BridgeError

end SurfaceBridge
