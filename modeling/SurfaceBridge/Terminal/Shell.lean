import SurfaceBridge.Bridge.Basic
import SurfaceBridge.Editor.ContentFile
import SurfaceBridge.Terminal.Arguments
import SurfaceBridge.Terminal.Command

set_option autoImplicit false

/-! # The shell

The shell holds the bridge and obeys commands. The code and the schema come from files or, without
files, from the content store. What the commands change in the content store is saved at the end
if anything was written to it.

Nothing but the surroundings decides what a run does: the files, the environment and the commands.
A run in which no connection comes about ends with the commands, or before them if the attempts
to connect end first.
-/

namespace SurfaceBridge

/-- What the program sees around it: the files, their URLs, what stands against the creation of a
file, and the environment. -/
structure Surroundings where
  look : String → StoredFile
  address : String → Option String
  obstacle : String → Option FileError
  environment : String → Option String

/-- What a program writes to its two outputs, and the exit code it ends with. -/
structure Outcome where
  output : String := ""
  errors : String := ""
  code : Nat := 0
  saved : Option (String × String) := none

/-- A reason why a run fails, from the outermost sentence to the innermost. -/
abbrev Failure := List String

/-- How a failed run ends. -/
def Outcome.ofFailure (failure : Failure) : Outcome :=
  { errors := "Error: " ++ ": ".intercalate failure ++ "\n", code := 1 }

/-- The shell: the bridge, and what was written to the two outputs. -/
structure Shell where
  bridge : Bridge
  output : String
  errors : String

namespace Shell

/-- The URL of a document without a file. -/
def inMemory (s : Surface) : String := "inmemory://model/" ++ s.name

/-- The URL and the text of a document: those of its file, or else the stored text. -/
def document (around : Surroundings) (s : Surface) (file stored : Option String) :
    Except Failure (String × String) :=
  match file with
  | none => .ok (inMemory s, stored.getD "")
  | some path =>
    match (around.look path).readText with
    | .error e => .error ["failed to read " ++ path, e.message]
    | .ok text =>
      match around.address path with
      | none => .error ["cannot build a URI for " ++ path]
      | some uri => .ok (uri, text)

/-- The content store that the program starts with. -/
def content (around : Surroundings) (state : Option String) : Except Failure ContentStore :=
  match state with
  | none => .ok .empty
  | some path =>
    match ContentStore.load (around.look path) with
    | .error e => .error (("failed to load state " ++ path) :: e.chain)
    | .ok store => .ok store

/-- The editor that the program starts with. -/
def editor (around : Surroundings) (a : Arguments) (choices : Choices) :
    Except Failure Editor := do
  let store ← content around a.state
  let (codeUri, code) ← document around .primary a.code (store.get? .code)
  let (schemaUri, schema) ← document around .schema a.schema (store.get? .schema)
  let workspace := Workspace.empty.openDocument .primary codeUri Language.codeId code
    |>.openDocument .schema schemaUri Language.schemaId schema
    |>.openDocument .output (inMemory .output) (a.outputLanguage.getD "plaintext") ""
  return {
    workspace := workspace
    content := store
    controls := .ofValues choices.cultures choices.languages }

/-- The shell that the program starts with, the URL of the server, and how to connect again. -/
def start (around : Surroundings) (a : Arguments) :
    Except Failure (Shell × String × Server.ReconnectOptions) :=
  let file := a.config.map fun path => (path, around.look path)
  match Configuration.resolve file a.server around.environment with
  | .error e => .error e.chain
  | .ok c =>
    match c.server.socketUrl with
    | .error e => .error [e.message, e.reason.message]
    | .ok url =>
      (editor around a c.choices).map fun e =>
        (⟨.ofEditor e c.server.clientName, "", ""⟩, url, c.server.reconnect)

/-- Writes a line to the output. -/
def say (line : String) (s : Shell) : Shell := { s with output := s.output ++ line ++ "\n" }

/-- Writes a line to the errors. -/
def complain (line : String) (s : Shell) : Shell := { s with errors := s.errors ++ line ++ "\n" }

/-- The line that shows a stored value. -/
def valueLine (store : ContentStore) (key : ContentKey) : String :=
  key.name ++ ": " ++ (store.get? key).getD "<unset>"

/-- The line that shows an option and its choices. -/
def controlLine (c : SelectControl) : String :=
  c.id ++ ": " ++ c.selected?.getD "<none>" ++ " of ["
    ++ ", ".intercalate (c.choices.map (·.value)) ++ "]"

/-- The lines that show the stored values and the options. -/
def stateLines (e : Editor) : List String :=
  [ContentKey.culture, .language, .schema, .code].map (valueLine e.content)
    ++ OptionKind.all.filterMap fun kind => (e.controls.get? kind).map controlLine

/-- Obeys a command. The command to quit changes nothing here. -/
def obey (c : Command) (s : Shell) : Shell :=
  match c with
  | .select kind value =>
    let (isAvailable, bridge) := s.bridge.selectOption kind value
    let s := { s with bridge := bridge }
    if isAvailable then s
    else s.complain ("'" ++ value ++ "' is not available for " ++ kind.controlId)
  | .showOutput => (stateLines s.bridge.editor).foldl (fun (s : Shell) line => s.say line) s
  | .quit => s

/-- Obeys the command in a line. -/
def obeyLine (s : Shell) (line : String) : Shell :=
  match Command.parse line with
  | .ok (some c) => s.obey c
  | .ok none => s
  | .error e => s.complain e.message

/-- How a run ends that failed after something was written. -/
def fail (s : Shell) (failure : Failure) : Outcome :=
  let last := Outcome.ofFailure failure
  { last with output := s.output, errors := s.errors ++ last.errors }

/-- Ends a run: saves the content store if it was written to. -/
def finish (around : Surroundings) (state : Option String) (s : Shell) : Outcome :=
  let done : Outcome := { output := s.output, errors := s.errors }
  let store := s.bridge.editor.content
  match state with
  | none => done
  | some path =>
    if store.revision = 0 then done
    else
      match around.obstacle path with
      | some e => s.fail (("failed to save state " ++ path) :: (ContentError.file e).chain)
      | none => { done with saved := some (path, String.ofList store.values.save) }

/-- How long the first poll waits, in milliseconds, and how many attempts to connect it covers. -/
def firstPoll : Nat := 50
def firstAttempts : Nat := 300

/-- What the program does when it is started and no connection comes about. -/
def run (around : Surroundings) (a : Arguments) (lines : List String) : Outcome :=
  match start around a with
  | .error failure => .ofFailure failure
  | .ok (shell, url, options) =>
    if options.givesUp firstAttempts firstPoll 0 then shell.fail ["gave up connecting to " ++ url]
    else (lines.foldl obeyLine shell).finish around a.state

end Shell

/-- What the program does without a run. Nothing is known of the errors of a misuse but its exit
code. -/
def Request.answer : Request → Outcome
  | .run _ => {}
  | .help => { output := helpText }
  | .version => { output := versionText }
  | .misuse => { code := 2 }

/-- What the program does with its arguments and the lines of its input. -/
def runProgram (around : Surroundings) (arguments lines : List String) : Outcome :=
  match Arguments.parse arguments with
  | .run a => Shell.run around a lines
  | request => request.answer

end SurfaceBridge
