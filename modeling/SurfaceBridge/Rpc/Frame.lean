import SurfaceBridge.Json.Printer

set_option autoImplicit false

/-! # Outgoing frames

A frame is one JSON-RPC message as compact JSON text. The client sends requests and
notifications, and answers the requests of the server with a result or an error.
-/

namespace SurfaceBridge

namespace Rpc

/-- An outgoing message. -/
inductive Frame where
  | request (id : Nat) (method : String) (params : Json)
  | notification (method : String) (params : Json)
  | result (id : Json) (value : Json)
  | failure (id : Json) (code : Int) (message : String)

namespace Frame

/-- The members that make up a message, beside the one for the version. -/
def members : Frame → List (String × Json)
  | request id method params =>
    [("id", .natural id), ("method", .text method), ("params", params)]
  | notification method params => [("method", .text method), ("params", params)]
  | result id value => [("id", id), ("result", value)]
  | failure id code message =>
    [("error", .object [("code", .integer code), ("message", .text message)]), ("id", id)]

/-- A message as a JSON object. -/
def toJson (f : Frame) : Json :=
  .object (Dictionary.ofList (("jsonrpc", .text "2.0") :: f.members))

/-- The text of a message. -/
def text (f : Frame) : String := f.toJson.render

/-- The code of the error for a method that is not supported. -/
def methodNotFound : Int := -32601

/-- The requests of a server that are answered with `null`. -/
def acknowledged : List String :=
  ["workspace/workspaceFolders", "client/registerCapability", "client/unregisterCapability",
    "window/workDoneProgress/create", "window/showMessageRequest",
    "workspace/semanticTokens/refresh"]

/-- The answer to a request of the server. A request for settings gets a `null` for each item it
asks for; what is not supported gets an error. -/
def answer (id : Json) (method : String) (params : Json) : Frame :=
  if method = "workspace/configuration" then
    let items := ((params.get? "items").bind Json.items?).getD []
    result id (.list (List.replicate items.length .null))
  else if acknowledged.contains method then result id .null
  else failure id methodNotFound ("unsupported request '" ++ method ++ "'")

end Frame

end Rpc

end SurfaceBridge
