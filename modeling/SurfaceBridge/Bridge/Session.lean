import SurfaceBridge.Bridge.Event
import SurfaceBridge.Protocol.ClientNotification
import SurfaceBridge.Rpc.Client

set_option autoImplicit false

/-! # Sessions

A session is what the client knows about the server of one connection. It starts with a
handshake: the client asks the server to initialize, waits for the answer, and confirms.

While the client waits, it answers the requests of the server. All other events that it reads
are put off: they are handed back in the order in which they came. The wait ends with the answer,
when the connection closes, when no event can follow, or when the time is over. How many events
can be read before that is not known, so it is a parameter.
-/

namespace SurfaceBridge

open Rpc (Client Connection Lines Message)

/-- Who the server says it is. -/
structure ServerInfo where
  name : String
  version : Option String
deriving DecidableEq

/-- The session of a connection. -/
structure Session where
  client : Client
  serverInfo : Option ServerInfo
  capabilities : Json
  isStarted : Bool

namespace Session

/-- The session of a new connection, before the handshake. -/
def ofConnection (c : Connection) : Session := ⟨.ofConnection c, none, .null, false⟩

/-- The id of the connection. -/
def id (s : Session) : Nat := s.client.connection.id

/-- The params of the request that starts a handshake. -/
def introduction (clientName : String) : Json :=
  .object [("capabilities", .object []), ("clientInfo", .object [("name", .text clientName)]),
    ("processId", .null), ("rootUri", .null)]

/-- What an event does to a waiting client. -/
inductive Heard where
  | answered (m : Message)
  | putOff
  | replied (lines : Lines)
  | failed (e : BridgeError)
  | hungUp

/-- What a message of the own connection does to a waiting client. -/
def hearMessage (c : Client) (requestId : Nat) (text : String) (lines : Lines) : Heard :=
  match Message.read text with
  | .error _ => .putOff
  | .ok m =>
    if m.isResponseTo requestId then .answered m
    else
      match m with
      | .request id method params =>
        match c.answer id method params lines with
        | .error e => .failed e
        | .ok lines => .replied lines
      | _ => .putOff

/-- What an event does to a waiting client. Only events of its own connection concern it. -/
def hear (c : Client) (requestId : Nat) (e : Event) (lines : Lines) : Heard :=
  match e with
  | .message id text =>
    if id = c.connection.id then hearMessage c requestId text lines else .putOff
  | .closed id => if id = c.connection.id then .hungUp else .putOff
  | .opened _ => .putOff

/-- What has come of waiting for an answer: the answer, the events that were put off, those that
were not read, and the lines. -/
structure Wait where
  answer : Except BridgeError Message
  putOff : List Event
  unread : List Event
  lines : Lines

/-- The error of a wait that takes too long. -/
def tooLate : BridgeError := .timeout "initialize response"

/-- Waits for the answer to a request. `limit` is the number of events that can be read before
the time is over; without it, the time is over when no event is left. -/
def await (c : Client) (requestId : Nat) (hungUp : Bool) :
    List Event → Option Nat → Lines → Wait
  | events, some 0, lines => ⟨.error tooLate, [], events, lines⟩
  | [], _, lines => ⟨.error (if hungUp then .transportClosed else tooLate), [], [], lines⟩
  | e :: events, limit, lines =>
    match hear c requestId e lines with
    | .answered m => ⟨.ok m, [], events, lines⟩
    | .failed err => ⟨.error err, [], events, lines⟩
    | .hungUp => ⟨.error (.connectionClosed c.connection.id), [e], events, lines⟩
    | .replied lines => await c requestId hungUp events (limit.map (· - 1)) lines
    | .putOff =>
      let w := await c requestId hungUp events (limit.map (· - 1)) lines
      { w with putOff := e :: w.putOff }

/-- Who the server says it is in the result of the handshake. -/
def serverInfoOf (result : Json) : Option ServerInfo :=
  (result.get? "serverInfo").bind fun info =>
    ((info.get? "name").bind Json.text?).map fun name =>
      ⟨name, (info.get? "version").bind Json.text?⟩

/-- What a session learns from the answer to its handshake. -/
def learn (s : Session) (answer : Message) : Except BridgeError Session :=
  match answer with
  | .response _ _ (some e) => .error (.handshakeRefused e.message)
  | .response _ result none =>
    let result := result.getD .null
    .ok { s with
      serverInfo := serverInfoOf result
      capabilities := (result.get? "capabilities").getD .null }
  | _ => .ok s

/-- What has come of a handshake. `putOff` are the events that were read and put off, and `unread`
those that were not read. -/
structure Start where
  session : Session
  outcome : Except BridgeError Unit
  putOff : List Event
  unread : List Event
  lines : Lines

/-- Ends a handshake whose answer has come. -/
def confirm (s : Session) (w : Wait) : Start :=
  match w.answer with
  | .error e => ⟨s, .error e, w.putOff, w.unread, w.lines⟩
  | .ok m =>
    match s.learn m with
    | .error e => ⟨s, .error e, w.putOff, w.unread, w.lines⟩
    | .ok s =>
      match s.client.send (.notification "initialized" (.object [])) w.lines with
      | .error e => ⟨s, .error e, w.putOff, w.unread, w.lines⟩
      | .ok lines => ⟨{ s with isStarted := true }, .ok (), w.putOff, w.unread, lines⟩

/-- The handshake. -/
def start (s : Session) (clientName : String) (limit : Option Nat) (inbox : Inbox)
    (lines : Lines) : Start :=
  let (client, asked) := s.client.request "initialize" (introduction clientName) lines
  let s := { s with client := client }
  match asked with
  | .error e => ⟨s, .error e, [], inbox.events, lines⟩
  | .ok (requestId, lines) =>
    s.confirm (await client requestId inbox.hungUp inbox.events limit lines)

/-- Tells the server something. -/
def tell (s : Session) (n : ClientNotification) (lines : Lines) : Except BridgeError Lines :=
  s.client.send n.frame lines

/-- Answers a request of the server. -/
def answer (s : Session) (id : Json) (method : String) (params : Json) (lines : Lines) :
    Except BridgeError Lines :=
  s.client.answer id method params lines

end Session

end SurfaceBridge
