import SurfaceBridge.Server.Location
import SurfaceBridge.Server.Reconnect
import SurfaceBridge.Text.Blank

set_option autoImplicit false

/-! # Settings of the connection

What is needed to reach the server and to greet it. The port can be given in an environment
variable.
-/

namespace SurfaceBridge

namespace Server

/-- The settings. The time to wait for the answer to the greeting is in milliseconds. -/
structure Settings where
  host : String := "localhost"
  port : UInt16 := 3010
  isSecure : Bool := false
  pagePath : String := "/"
  servicePath : String := "ovLanguage"
  greetingTimeout : UInt64 := 10000
  clientName : String := "ovbridge"
  reconnect : ReconnectOptions := {}

/-- A variable of the environment with a value that cannot be used. -/
structure InvalidVariable where
  name : String
  value : String
deriving DecidableEq

/-- The sentence for a value that cannot be used. -/
def InvalidVariable.message (e : InvalidVariable) : String :=
  "invalid value for environment variable " ++ e.name ++ ": '" ++ e.value ++ "'"

/-- The variable that holds a port. -/
def portVariable : String := "OV_LANGUAGE_PORT"

/-- The number that decimal digits write, if there are any and all are digits. -/
def decimal? (digits : List Char) : Option Nat :=
  if digits.isEmpty || !digits.all Char.isDigit then none
  else some (digits.foldl (fun (n : Nat) (c : Char) => 10 * n + (c.toNat - 48)) 0)

/-- The port that a text writes: a number of 16 bits, perhaps behind a plus sign and between
blanks. -/
def parsePort (text : String) : Option UInt16 :=
  let digits := match Text.trim text.toList with
    | '+' :: rest => rest
    | rest => rest
  match decimal? digits with
  | some n => if n < UInt16.size then some (UInt16.ofNat n) else none
  | none => none

namespace Settings

/-- The location of the page that the settings speak of. -/
def pageLocation (s : Settings) : PageLocation := ⟨s.isSecure, s.host, s.pagePath⟩

/-- The URL of the server. -/
def socketUrl (s : Settings) : Except InvalidUrl String :=
  s.pageLocation.socketUrl s.port s.servicePath

/-- The settings with what the environment says about them. -/
def withEnvironment (s : Settings) (environment : String → Option String) :
    Except InvalidVariable Settings :=
  match environment portVariable with
  | none => .ok s
  | some value =>
    match parsePort value with
    | some port => .ok { s with port := port }
    | none => .error ⟨portVariable, value⟩

/-- Settings of which some may be left out. -/
structure Draft where
  host : Option String := none
  port : Option UInt16 := none
  isSecure : Option Bool := none
  pagePath : Option String := none
  servicePath : Option String := none
  greetingTimeout : Option UInt64 := none
  clientName : Option String := none
  reconnect : Option ReconnectOptions.Draft := none

/-- Settings with their usual values where they are left out. -/
def ofDraft (d : Draft) : Settings :=
  let usual : Settings := {}
  { host := d.host.getD usual.host
    port := d.port.getD usual.port
    isSecure := d.isSecure.getD usual.isSecure
    pagePath := d.pagePath.getD usual.pagePath
    servicePath := d.servicePath.getD usual.servicePath
    greetingTimeout := d.greetingTimeout.getD usual.greetingTimeout
    clientName := d.clientName.getD usual.clientName
    reconnect := .ofDraft (d.reconnect.getD {}) }

/-- A port. -/
def portNumber : Json.Decoder UInt16 :=
  (Json.Decoder.natural "u16" (UInt16.size - 1)).map UInt16.ofNat

/-- How settings are decoded. Each of them may be left out. -/
def schema (acceptsMore : Bool) : Json.Schema Draft Draft where
  type := "struct BridgeConfig"
  fields :=
    [.ofDecoder ["host"] true .text (·.host) fun s d => { d with host := some s },
      .ofDecoder ["port"] true portNumber (·.port) fun n d => { d with port := some n },
      .ofDecoder ["secure"] true .boolean (·.isSecure) fun b d => { d with isSecure := some b },
      .ofDecoder ["page_path"] true .text (·.pagePath) fun s d => { d with pagePath := some s },
      .ofDecoder ["service_path"] true .text (·.servicePath)
        fun s d => { d with servicePath := some s },
      .ofDecoder ["initialize_timeout_ms"] true ReconnectOptions.milliseconds
        (·.greetingTimeout) fun n d => { d with greetingTimeout := some n },
      .ofDecoder ["client_name"] true .text (·.clientName)
        fun s d => { d with clientName := some s },
      .ofDecoder ["reconnect"] true (ReconnectOptions.schema acceptsMore).decoder (·.reconnect)
        fun r d => { d with reconnect := some r }]
  start := {}
  finish := .ok
  acceptsMore := acceptsMore

/-- The decoder of settings. -/
def decoder : Json.Decoder Settings := (schema false).decoder.map ofDraft

/-- The text of settings: an object with all of them in order. -/
def write (s : Settings) : List Char :=
  Json.recordText
    [("host", Json.quote s.host), ("port", Json.naturalText s.port.toNat),
      ("secure", (Json.boolean s.isSecure).print), ("page_path", Json.quote s.pagePath),
      ("service_path", Json.quote s.servicePath),
      ("initialize_timeout_ms", Json.naturalText s.greetingTimeout.toNat),
      ("client_name", Json.quote s.clientName), ("reconnect", s.reconnect.write)]

end Settings

end Server

end SurfaceBridge
