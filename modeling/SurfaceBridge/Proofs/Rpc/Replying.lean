import SurfaceBridge.Rpc.Frame
import SurfaceBridge.Rpc.Message

set_option autoImplicit false

/-! # Requests and responses

A frame of the server is a request if it is an object with an id that is not `null` and a method
that is a text. What a response to a request has to be is said of the object that is sent, member
by member (`Request.IsAnsweredBy`), and `isAnsweredBy_reply` says that `Frame.answer` makes it so.
-/

namespace SurfaceBridge

namespace Rpc

/-! ## Responses -/

namespace Frame

/-- Whether a frame is a response. -/
def isReply : Frame → Bool
  | .result _ _ => true
  | .failure _ _ _ => true
  | _ => false

/-- The responses among some frames. -/
def replies (fs : List Frame) : List Frame := fs.filter isReply

theorem replies_append (fs gs : List Frame) : replies (fs ++ gs) = replies fs ++ replies gs :=
  List.filter_append ..

theorem replies_eq_nil {fs : List Frame} (h : ∀ f ∈ fs, f.isReply = false) : replies fs = [] :=
  List.filter_eq_nil_iff.2 (by simpa using h)

theorem replies_eq_self {fs : List Frame} (h : ∀ f ∈ fs, f.isReply = true) : replies fs = fs :=
  List.filter_eq_self.2 h

theorem isReply_answer (id : Json) (method : String) (params : Json) :
    (answer id method params).isReply = true := by
  unfold answer
  split
  · rfl
  · split <;> rfl

/-- The members of a message, whatever their order. -/
theorem get?_request (name : String) (n : Nat) (method : String) (params : Json) :
    (request n method params).toJson.get? name
      = if name = "params" then some params
        else if name = "method" then some (.text method)
        else if name = "id" then some (.natural n)
        else if name = "jsonrpc" then some (.text "2.0") else none := by
  simp [toJson, members, Json.get?, Dictionary.ofList, Dictionary.lookup_insert]

theorem get?_notification (name method : String) (params : Json) :
    (notification method params).toJson.get? name
      = if name = "params" then some params
        else if name = "method" then some (.text method)
        else if name = "jsonrpc" then some (.text "2.0") else none := by
  simp [toJson, members, Json.get?, Dictionary.ofList, Dictionary.lookup_insert]

theorem get?_result (name : String) (id value : Json) :
    (result id value).toJson.get? name
      = if name = "result" then some value
        else if name = "id" then some id
        else if name = "jsonrpc" then some (.text "2.0") else none := by
  simp [toJson, members, Json.get?, Dictionary.ofList, Dictionary.lookup_insert]

theorem get?_failure (name : String) (id : Json) (code : Int) (message : String) :
    (failure id code message).toJson.get? name
      = if name = "id" then some id
        else if name = "error" then
          some (.object [("code", .integer code), ("message", .text message)])
        else if name = "jsonrpc" then some (.text "2.0") else none := by
  simp [toJson, members, Json.get?, Dictionary.ofList, Dictionary.lookup_insert]

end Frame

/-! ## Requests -/

/-- A request of the server. -/
structure Request where
  id : Json
  method : String
  params : Json

namespace Request

/-- The request in a frame, if it is one. -/
def read? (text : String) : Option Request :=
  match Json.read text with
  | .error _ => none
  | .ok v =>
    match (v.get? "id").filter fun i => !i.isNull, v.get? "method" with
    | some id, some (.text method) => some ⟨id, method, (v.get? "params").getD .null⟩
    | _, _ => none

/-- The number of settings that a request asks for. -/
def itemCount (r : Request) : Nat :=
  match r.params.get? "items" with
  | some (.list items) => items.length
  | _ => 0

/-- The response that is sent to a request. -/
def reply (r : Request) : Frame := .answer r.id r.method r.params

/-- What the response to a request has to be. It has the id of the request, as it is, and either
a result or an error. The result is a list with one `null` for each of the settings that are asked
for, or `null` for the other methods that are supported; any other method is an error. -/
structure IsAnsweredBy (r : Request) (f : Frame) : Prop where
  isReply : f.isReply = true
  id : f.toJson.get? "id" = some r.id
  either : (f.toJson.get? "result").isSome = !(f.toJson.get? "error").isSome
  settings : r.method = "workspace/configuration" →
    f.toJson.get? "result" = some (.list (List.replicate r.itemCount .null))
  acknowledged : r.method ∈ Frame.acknowledged → f.toJson.get? "result" = some .null
  unsupported : r.method ≠ "workspace/configuration" → r.method ∉ Frame.acknowledged →
    ∃ e, f.toJson.get? "error" = some e ∧ e.get? "code" = some (.integer (-32601))

theorem isAnsweredBy_reply (r : Request) : r.IsAnsweredBy r.reply := by
  have hcount : (((r.params.get? "items").bind Json.items?).getD []).length = r.itemCount := by
    unfold itemCount
    cases r.params.get? "items" with
    | none => rfl
    | some v => cases v <;> rfl
  by_cases hs : r.method = "workspace/configuration"
  · have hreply : r.reply = .result r.id (.list (List.replicate r.itemCount .null)) := by
      rw [reply, Frame.answer, if_pos hs]
      dsimp only
      rw [hcount]
    rw [hreply]
    refine ⟨rfl, ?_, ?_, fun _ => ?_, fun ha => ?_, fun hn => absurd hs hn⟩
    · simp [Frame.get?_result]
    · simp [Frame.get?_result]
    · simp [Frame.get?_result]
    · rw [hs] at ha
      exact absurd ha (by decide)
  · by_cases ha : r.method ∈ Frame.acknowledged
    · have hreply : r.reply = .result r.id .null := by
        rw [reply, Frame.answer, if_neg hs, if_pos (by simpa using ha)]
      rw [hreply]
      refine ⟨rfl, ?_, ?_, fun h => absurd h hs, fun _ => ?_, fun _ hn => absurd ha hn⟩
      · simp [Frame.get?_result]
      · simp [Frame.get?_result]
      · simp [Frame.get?_result]
    · have hreply : r.reply = .failure r.id Frame.methodNotFound
          ("unsupported request '" ++ r.method ++ "'") := by
        rw [reply, Frame.answer, if_neg hs, if_neg (by simpa using ha)]
      rw [hreply]
      refine ⟨rfl, ?_, ?_, fun h => absurd h hs, fun h => absurd h ha, fun _ _ => ?_⟩
      · simp [Frame.get?_failure]
      · simp [Frame.get?_failure]
      · exact ⟨_, Frame.get?_failure .., rfl⟩

end Request

/-- What has no method is no request. -/
theorem Message.ofResponse_ne_request (v o : Json) (id : Json) (method : String) (params : Json) :
    Message.ofResponse v o ≠ .ok (.request id method params) := by
  unfold Message.ofResponse
  split
  · simp
  · split <;> simp

/-- A message is read as a request exactly if its frame is one. -/
theorem Message.read_eq_request {text method : String} {id params : Json} :
    Message.read text = .ok (.request id method params)
      ↔ Request.read? text = some ⟨id, method, params⟩ := by
  unfold Message.read Request.read?
  cases Json.read text with
  | error e => simp
  | ok v =>
      cases v with
      | object members =>
          simp only [Message.ofJson]
          generalize (Json.object members).get? "method" = named
          generalize ((Json.object members).get? "id").filter (fun i => !i.isNull) = numbered
          cases named with
          | none =>
              cases numbered with
              | none => simp
              | some v => simp [Message.ofResponse_ne_request]
          | some named => cases named <;> cases numbered <;> simp
      | _ => simp [Message.ofJson, Json.get?]

end Rpc

end SurfaceBridge
