import SurfaceBridge.Json.Decoder

set_option autoImplicit false

/-! # Incoming messages

An incoming frame is a JSON object. With an id and a method it is a request, with a method alone
a notification, and with an id alone a response. An id of `null` is no id.
-/

namespace SurfaceBridge

namespace Rpc

/-- The error that a response reports. -/
structure ResponseError where
  code : Int
  message : String
  data : Option Json

/-- An incoming message. -/
inductive Message where
  | response (id : Json) (result : Option Json) (error : Option ResponseError)
  | request (id : Json) (method : String) (params : Json)
  | notification (method : String) (params : Json)

/-- Why a frame is no message. -/
inductive MessageError where
  | json (problem : Json.Problem)
  | notObject
  | methodNotText
  | neitherIdNorMethod

/-- The sentence for a message error. -/
def MessageError.reason : MessageError → String
  | .json p => p.message
  | .notObject => "JSON-RPC message must be an object"
  | .methodNotText => "JSON-RPC method must be a string"
  | .neitherIdNorMethod => "JSON-RPC message has neither id nor method"

/-- The fields of a response error that have been read. -/
structure ResponseError.Draft where
  code : Option Int
  message : Option String
  data : Option (Option Json)

/-- How the error of a response is decoded: only the code is needed. -/
def ResponseError.schema : Json.Schema ResponseError.Draft ResponseError where
  type := "struct ResponseError"
  fields := [
    .ofDecoder ["code"] false
      (.integer "i64" (-9223372036854775808) 9223372036854775807)
      (·.code) (fun v d => { d with code := some v }),
    .ofDecoder ["message"] true .text (·.message) (fun v d => { d with message := some v }),
    .ofDecoder ["data"] true (.optional .value) (·.data) (fun v d => { d with data := some v })]
  start := ⟨none, none, none⟩
  finish d :=
    match d.code with
    | none => .error (.missingField "code")
    | some code => .ok ⟨code, d.message.getD "", d.data.getD none⟩

namespace Message

/-- The response with an id, made of the other members of the object. -/
def ofResponse (id : Json) (o : Json) : Except MessageError Message :=
  match o.get? "error" with
  | none => .ok (.response id (o.get? "result") none)
  | some e =>
    match ResponseError.schema.decoder.fromValue e with
    | .error m => .error (.json (.mismatch m))
    | .ok error => .ok (.response id (o.get? "result") (some error))

/-- The message that a JSON value stands for. -/
def ofJson (v : Json) : Except MessageError Message :=
  match v with
  | .object _ =>
    let id := (v.get? "id").filter fun i => !i.isNull
    let params := (v.get? "params").getD .null
    match v.get? "method", id with
    | some (.text method), some id => .ok (.request id method params)
    | some (.text method), none => .ok (.notification method params)
    | some _, _ => .error .methodNotText
    | none, some id => ofResponse id v
    | none, none => .error .neitherIdNorMethod
  | _ => .error .notObject

/-- The message in a frame. -/
def read (text : String) : Except MessageError Message :=
  match Json.read text with
  | .error e => .error (.json e.problem)
  | .ok v => ofJson v

/-- Whether a message answers the request with a number. -/
def isResponseTo (n : Nat) : Message → Bool
  | .response id _ _ => id.natural? = some n
  | _ => false

end Message

end Rpc

end SurfaceBridge
