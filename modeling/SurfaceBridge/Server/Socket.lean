import SurfaceBridge.Server.Location

set_option autoImplicit false

/-! # Sockets

A socket connects to a URL with one of the two socket schemes.
-/

namespace SurfaceBridge

namespace Server

/-- Why no attempt to connect is made. -/
inductive SocketError where
  | invalidUrl (error : InvalidUrl)
  | unsupportedScheme (scheme : String)
deriving DecidableEq

/-- The sentence for a socket error. -/
def SocketError.message : SocketError → String
  | .invalidUrl e => e.message
  | .unsupportedScheme scheme => "I/O error: unsupported socket scheme '" ++ scheme ++ "'"

/-- The URL to which a socket connects. -/
def socketTarget (text : String) : Except SocketError Url :=
  match parseUrl text with
  | .error e => .error (.invalidUrl e)
  | .ok url =>
    if url.scheme = "ws" ∨ url.scheme = "wss" then .ok url
    else .error (.unsupportedScheme url.scheme)

end Server

end SurfaceBridge
