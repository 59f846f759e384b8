import SurfaceBridge.Editor.StoredFile
import SurfaceBridge.Server.Settings
import SurfaceBridge.Toml.Document

set_option autoImplicit false

/-! # Configuration

The settings of the connection and the choices of the two options come from four places. What is
given on the command line counts first, then the port in the environment, then the configuration
file, and what none of them gives has its usual value. A place that cannot be read is an error
even if another one counts before it.
-/

namespace SurfaceBridge

/-- What the two options offer. -/
structure Choices where
  cultures : List String := []
  languages : List String := []
deriving DecidableEq

/-- What the connection is made with and what the options offer. -/
structure Configuration where
  server : Server.Settings
  choices : Choices

/-- Why there is no configuration. -/
inductive ConfigurationError where
  | unreadable (path : String) (error : FileError)
  | invalid (path : String)
  | wrongVariable (error : Server.InvalidVariable)

/-- The sentence for a configuration error, without its cause. -/
def ConfigurationError.message : ConfigurationError → String
  | unreadable path _ => "failed to read config file " ++ path
  | invalid path => "invalid config file " ++ path
  | wrongVariable e => e.message

/-- The sentences for a configuration error and what caused it. -/
def ConfigurationError.chain (e : ConfigurationError) : List String :=
  match e with
  | unreadable _ cause => [e.message, cause.message]
  | _ => [e.message]

namespace Choices

/-- Choices of which some may be left out. -/
structure Draft where
  cultures : Option (List String) := none
  languages : Option (List String) := none

/-- No choices where they are left out. -/
def ofDraft (d : Draft) : Choices := ⟨d.cultures.getD [], d.languages.getD []⟩

/-- How choices are decoded. Each of them may be left out. -/
def schema : Json.Schema Draft Draft where
  type := "struct OptionsConfig"
  fields :=
    [.ofDecoder ["cultures"] true (.list .text) (·.cultures)
        fun list d => { d with cultures := some list },
      .ofDecoder ["languages"] true (.list .text) (·.languages)
        fun list d => { d with languages := some list }]
  start := {}
  finish := .ok
  acceptsMore := true

end Choices

/-- What a configuration file gives. -/
structure ConfigurationFile where
  server : Server.Settings.Draft := {}
  choices : Choices.Draft := {}

namespace ConfigurationFile

/-- The parts of a file read so far. -/
structure Parts where
  server : Option Server.Settings.Draft := none
  choices : Option Choices.Draft := none

/-- How a file is decoded. Each of its parts may be left out. -/
def schema : Json.Schema Parts ConfigurationFile where
  type := "struct FileConfig"
  fields :=
    [.ofDecoder ["server"] true (Server.Settings.schema true).decoder (·.server)
        fun part p => { p with server := some part },
      .ofDecoder ["options"] true Choices.schema.decoder (·.choices)
        fun part p => { p with choices := some part }]
  start := {}
  finish p := .ok ⟨p.server.getD {}, p.choices.getD {}⟩
  acceptsMore := true

/-- What the text of a file gives. -/
def parse (text : String) : Option ConfigurationFile :=
  match Toml.parse text with
  | none => none
  | some entries =>
    (schema.take (Toml.Value.table .headed entries).toJson).toOption

/-- What the file at a path gives. -/
def load (path : String) (file : StoredFile) : Except ConfigurationError ConfigurationFile :=
  match file.readText with
  | .error e => .error (.unreadable path e)
  | .ok text =>
    match parse text with
    | none => .error (.invalid path)
    | some given => .ok given

end ConfigurationFile

/-- What is given on the command line for the connection. -/
structure ServerFlags where
  host : Option String := none
  port : Option UInt16 := none
  isSecure : Bool := false
  pagePath : Option String := none

/-- Settings with what the command line gives in their place. -/
def ServerFlags.apply (flags : ServerFlags) (s : Server.Settings) : Server.Settings :=
  { s with
    host := flags.host.getD s.host
    port := flags.port.getD s.port
    isSecure := flags.isSecure || s.isSecure
    pagePath := flags.pagePath.getD s.pagePath }

namespace Configuration

/-- The configuration of a file with a path, if one is given, the flags and the environment. -/
def resolve (file : Option (String × StoredFile)) (flags : ServerFlags)
    (environment : String → Option String) : Except ConfigurationError Configuration :=
  let given : Except ConfigurationError ConfigurationFile := match file with
    | none => .ok {}
    | some (path, stored) => ConfigurationFile.load path stored
  match given with
  | .error e => .error e
  | .ok given =>
    match (Server.Settings.ofDraft given.server).withEnvironment environment with
    | .error e => .error (.wrongVariable e)
    | .ok server => .ok ⟨flags.apply server, .ofDraft given.choices⟩

end Configuration

end SurfaceBridge
