import SurfaceBridge.Bridge.Session
import SurfaceBridge.Editor.Controls
import SurfaceBridge.Text.LowerCase

set_option autoImplicit false

/-! # The bridge

The bridge ties the editor to the server. It passes changes of texts and selections on to the
server and to the content store, and applies what the server sends to the editor.

It is driven by polls. A poll first dispatches the changes that wait: a text in the schema
language is sent to the server and stored, a text in the code language is stored, and the output
is left alone. Then it handles at most one event: the oldest that was put off during a handshake
or, if there is none, the next of the inbox. Events of connections other than that of the session
are dropped.

There is at most one session. It holds the only handle to its connection, so the connection is
given up with it. What cannot be sent is dropped.
-/

namespace SurfaceBridge

open Rpc (Lines Message)

/-- What the bridge reads and writes beside its connections, and the engine that compiles the
patterns for it. -/
structure Editor where
  workspace : Workspace
  content : ContentStore
  controls : PageControls
  engine : Pattern.Engine := .standard

/-- The bridge: the editor, the name it gives the server, its inbox and the lines it sends on, the
session, the events that were put off, and what the server has asked to log. -/
structure Bridge where
  editor : Editor
  clientName : String
  inbox : Inbox
  lines : Lines
  session : Option Session
  backlog : List Event
  log : List (Severity × String)

/-- What a poll reports. -/
inductive BridgeEvent where
  | sessionStarted (id : Nat)
  | sessionClosed (id : Nat)
  | notification (n : ServerNotification)
deriving DecidableEq

/-! ## Sending -/

/-- Tells the server something, if there is a session and its line accepts it. -/
def tell (session : Option Session) (n : ClientNotification) (lines : Lines) : Lines :=
  match session with
  | none => lines
  | some s =>
    match s.tell n lines with
    | .error _ => lines
    | .ok lines => lines

namespace Editor

/-- The address of the primary document. -/
def primaryUri (e : Editor) : Option String := e.workspace.uri .primary

/-- Sends a text as the schema, if the primary surface is open. -/
def sendSchema (e : Editor) (session : Option Session) (schema : String) (lines : Lines) : Lines :=
  match e.primaryUri with
  | none => lines
  | some uri => tell session (.schemaChanged schema uri) lines

/-- Sends the text of the schema surface, if it is open. -/
def sendSchemaState (e : Editor) (session : Option Session) (lines : Lines) : Lines :=
  match e.workspace.text .schema with
  | none => lines
  | some schema => e.sendSchema session schema lines

/-- Sends the value of an option, if the primary surface is open. -/
def sendOption (e : Editor) (session : Option Session) (kind : OptionKind) (value : String)
    (lines : Lines) : Lines :=
  match e.primaryUri with
  | none => lines
  | some uri => tell session (.optionChanged kind value uri) lines

/-- The value of an option: what is stored, else what is selected. -/
def optionValue (e : Editor) (kind : OptionKind) : Option String :=
  e.content.get? kind.contentKey <|> e.controls.selected? kind

/-- Selects the stored value of an option in its control, if the control offers it. -/
def reflectOption (kind : OptionKind) (e : Editor) : Editor :=
  match e.content.get? kind.contentKey with
  | none => e
  | some value => { e with controls := (e.controls.select kind value).2 }

/-- Reflects the stored value of an option and sends the value of the option. -/
def sendOptionOf (session : Option Session) (p : Editor × Lines) (kind : OptionKind) :
    Editor × Lines :=
  let e := p.1.reflectOption kind
  match e.optionValue kind with
  | none => (e, p.2)
  | some value => (e, e.sendOption session kind value p.2)

/-- Reflects the stored values of the options and sends the values of the options. -/
def sendOptionState (e : Editor) (session : Option Session) (lines : Lines) : Editor × Lines :=
  OptionKind.all.foldl (sendOptionOf session) (e, lines)

/-- Writes a value to the content store. -/
def store (k : ContentKey) (value : String) (e : Editor) : Editor :=
  { e with content := e.content.set k value }

/-! ## Dispatching changes -/

/-- Dispatches one change by the language it was made in. -/
def dispatchChange (session : Option Session) (p : Editor × Lines) (c : Change) :
    Editor × Lines :=
  let (e, lines) := p
  if c.surface = .output then (e, lines)
  else if c.language = Language.schemaId then
    (e.store .schema c.text, e.sendSchema session c.text lines)
  else if c.language = Language.codeId then (e.store .code c.text, lines)
  else (e, lines)

/-- Dispatches all changes that wait. -/
def dispatch (e : Editor) (session : Option Session) (lines : Lines) : Editor × Lines :=
  let (changes, workspace) := e.workspace.takeChanges
  changes.foldl (dispatchChange session) ({ e with workspace := workspace }, lines)

/-! ## Applying notifications -/

/-- Shows generated code in the output, if the output is open. Its language becomes that of the
code, in lower case. -/
def showCode (language implementation : String) (e : Editor) : Except SurfaceNotOpen Editor :=
  if e.workspace.isOpen .output then
    match e.workspace.setText .output implementation with
    | .error err => .error err
    | .ok (_, w) =>
      match w.setLanguage .output (Text.lowerCase language) with
      | .error err => .error err
      | .ok w => .ok { e with workspace := w }
  else .ok e

/-- Applies a notification. -/
def applyNotification (n : ServerNotification) (e : Editor) : Except BridgeError Editor :=
  match n with
  | .highlighting rows =>
    match Classifier.ofTable e.engine rows with
    | .error pattern => .error (.invalidPattern pattern)
    | .ok c => .ok { e with workspace := e.workspace.setClassifier Language.codeId c }
  | .generatedCode language implementation =>
    match e.showCode language implementation with
    | .error err => .error (.surfaceNotOpen err)
    | .ok e => .ok e
  | .commentKeyword token =>
    .ok { e with
      workspace := e.workspace.withLanguages fun r => (r.setLineComment Language.codeId token).2 }
  | .message _ _ _ => .ok e

end Editor

/-- What a notification adds to the log. -/
def ServerNotification.logged : ServerNotification → List (Severity × String)
  | .message _ severity text => [(severity, text)]
  | _ => []

namespace Bridge

/-- A bridge without connections. -/
def ofEditor (e : Editor) (clientName : String) : Bridge :=
  ⟨e, clientName, .empty, [], none, [], []⟩

/-- Whether there is a session that has started. -/
def isReady (b : Bridge) : Bool :=
  match b.session with
  | none => false
  | some s => s.isStarted

/-- Replaces the editor and the lines. -/
def withEditor (b : Bridge) (p : Editor × Lines) : Bridge :=
  { b with editor := p.1, lines := p.2 }

/-- Dispatches all changes that wait. -/
def dispatch (b : Bridge) : Bridge := b.withEditor (b.editor.dispatch b.session b.lines)

/-! ## What the host does -/

/-- Replaces the text of a surface and dispatches the changes that wait. -/
def edit (s : Surface) (text : String) (b : Bridge) : Except SurfaceNotOpen (Change × Bridge) :=
  match b.editor.workspace.setText s text with
  | .error e => .error e
  | .ok (change, w) =>
    .ok (change, ({ b with editor := { b.editor with workspace := w } }).dispatch)

/-- Stores and sends the value that is selected for an option. -/
def optionChanged (kind : OptionKind) (b : Bridge) : Bridge :=
  match b.editor.controls.selected? kind with
  | none => b
  | some value =>
    let e := b.editor.store kind.contentKey value
    b.withEditor (e, e.sendOption b.session kind value b.lines)

/-- Selects a value for an option as a user would, and says whether it is offered. -/
def selectOption (kind : OptionKind) (value : String) (b : Bridge) : Bool × Bridge :=
  match b.editor.controls.select kind value with
  | (some true, controls) =>
    (true, ({ b with editor := { b.editor with controls := controls } }).optionChanged kind)
  | _ => (false, b)

/-- Sends the text of the schema. -/
def sendSchemaState (b : Bridge) : Bridge :=
  { b with lines := b.editor.sendSchemaState b.session b.lines }

/-- Sends the values of the options. -/
def sendOptionState (b : Bridge) : Bridge :=
  b.withEditor (b.editor.sendOptionState b.session b.lines)

/-! ## Events -/

/-- A connection has opened. Any session is given up, and a new one is started; if the handshake
succeeds, the server is told the state of the editor. -/
def openSession (c : Rpc.Connection) (limit : Option Nat) (b : Bridge) :
    Option BridgeEvent × Bridge :=
  let start := (Session.ofConnection c).start b.clientName limit b.inbox b.lines
  let b := { b with
    session := none
    backlog := b.backlog ++ start.putOff
    inbox := { b.inbox with events := start.unread }
    lines := start.lines }
  match start.outcome with
  | .error _ => (none, b)
  | .ok () =>
    (some (.sessionStarted c.id),
      ({ b with session := some start.session }).sendSchemaState.sendOptionState)

/-- A message of the session has arrived. -/
def handleMessage (s : Session) (text : String) (b : Bridge) :
    Except BridgeError (Option BridgeEvent × Bridge) :=
  match Message.read text with
  | .error e => .error (.malformedMessage e)
  | .ok (.request id method params) =>
    match s.answer id method params b.lines with
    | .error _ => .ok (none, b)
    | .ok lines => .ok (none, { b with lines := lines })
  | .ok (.response _ _ _) => .ok (none, b)
  | .ok (.notification method params) =>
    match ServerNotification.decode method params with
    | .error e => .error (.payload e)
    | .ok none => .ok (none, b)
    | .ok (some n) =>
      match b.editor.applyNotification n with
      | .error e => .error e
      | .ok e => .ok (some (.notification n), { b with editor := e, log := b.log ++ n.logged })

/-- Handles an event. Only an opened connection and the events of the session count. -/
def handleEvent (limit : Option Nat) (e : Event) (b : Bridge) :
    Except BridgeError (Option BridgeEvent × Bridge) :=
  match e, b.session with
  | .opened c, _ => .ok (b.openSession c limit)
  | .closed id, some s =>
    if id = s.id then .ok (some (.sessionClosed id), { b with session := none }) else .ok (none, b)
  | .message id text, some s => if id = s.id then b.handleMessage s text else .ok (none, b)
  | _, none => .ok (none, b)

/-- The next event and the bridge without it: the oldest that was put off, else the next of the
inbox. -/
def nextEvent (b : Bridge) : Option (Event × Bridge) :=
  match b.backlog, b.inbox.events with
  | e :: rest, _ => some (e, { b with backlog := rest })
  | [], e :: rest => some (e, { b with inbox := { b.inbox with events := rest } })
  | [], [] => none

/-- Dispatches the changes that wait and handles at most one event. `limit` is the number of
events that a handshake can read before its time is over. -/
def poll (limit : Option Nat) (b : Bridge) : Except BridgeError (Option BridgeEvent) × Bridge :=
  let b := b.dispatch
  match b.nextEvent with
  | none => (if b.inbox.hungUp then .error .transportClosed else .ok none, b)
  | some (e, b) =>
    match b.handleEvent limit e with
    | .error err => (.error err, b)
    | .ok (event, b) => (.ok event, b)

/-! ## Handles -/

/-- Whether an event is the opening of the connection with a line. -/
def opens (line : Nat) : Event → Bool
  | .opened c => c.line = line
  | _ => false

/-- Whether somebody holds a handle to a line: the session, or an event that has not been
handled. -/
def holds (b : Bridge) (line : Nat) : Bool :=
  (match b.session with
    | none => false
    | some s => s.client.connection.line = line)
    || b.backlog.any (opens line) || b.inbox.events.any (opens line)

end Bridge

end SurfaceBridge
