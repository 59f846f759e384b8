import SurfaceBridge.Terminal.Shell
import SurfaceBridge.Url.FilePath

set_option autoImplicit false

/-! # The command line

Looks at the files that the arguments name, reads the commands from the input, writes what the
program says, and saves what it saves.
-/

namespace SurfaceBridge

/-- What stands at a path. -/
def lookAt (path : String) : IO StoredFile := do
  try
    return .file (← IO.FS.readBinFile path)
  catch e =>
    match e with
    | .inappropriateType (some _) 20 _ => return .behindFile
    | .inappropriateType _ _ _ => return .directory
    | _ => return .absent

/-- The URL of the file at a path. -/
def addressOf (path : String) : IO (Option String) := do
  try
    let whole ← IO.FS.realPath path
    return Url.ofFilePath whole.toString.toUTF8.toList
  catch _ => return none

/-- What the program sees around it, as far as the arguments name it. -/
def surroundings (a : Arguments) : IO Surroundings := do
  let paths := [a.config, a.code, a.schema, a.state].filterMap id
  let files ← paths.mapM fun path => return (path, ← lookAt path)
  let addresses ← paths.mapM fun path => return (path, ← addressOf path)
  let port ← IO.getEnv Server.portVariable
  return {
    look := fun path => (files.lookup path).getD .absent
    address := fun path => ((addresses.lookup path).getD none)
    obstacle := fun _ => none
    environment := fun name => if name = Server.portVariable then port else none }

/-- The lines of the input. -/
partial def readInput (input : IO.FS.Stream) (done : List String) : IO (List String) := do
  let line ← input.getLine
  if line.isEmpty then return done.reverse
  readInput input (line :: done)

/-- Writes what the program says and saves what it saves. The result is the exit code. -/
def report (o : Outcome) : IO UInt32 := do
  IO.print o.output
  IO.eprint o.errors
  match o.saved with
  | none => return UInt32.ofNat o.code
  | some (path, text) =>
    try
      IO.FS.writeFile path text
      return UInt32.ofNat o.code
    catch e =>
      IO.eprint (Outcome.ofFailure ["failed to save state " ++ path, toString e]).errors
      return 1

end SurfaceBridge

open SurfaceBridge in
/-- Runs the program. -/
def main (arguments : List String) : IO UInt32 := do
  match Arguments.parse arguments with
  | .run a =>
    let around ← surroundings a
    report (Shell.run around a (← readInput (← IO.getStdin) []))
  | request => report (Request.answer request)
