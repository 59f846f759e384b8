import SurfaceBridge.Editor.Controls
import SurfaceBridge.Text.Blank

set_option autoImplicit false

/-! # Commands

A command is one line: a verb, and for the two verbs that select an option a value behind
blanks. Blanks around the line do not matter, and a line of blanks is no command.
-/

namespace SurfaceBridge

/-- What a line asks for. -/
inductive Command where
  | select (kind : OptionKind) (value : String)
  | showOutput
  | quit
deriving DecidableEq

/-- Why a line is not understood. -/
inductive CommandError where
  | missingValue (verb : String)
  | unknownVerb (verb : String)
deriving DecidableEq

/-- The sentence for a command error. -/
def CommandError.message : CommandError → String
  | .missingValue verb => "usage: " ++ verb ++ " <value>"
  | .unknownVerb verb =>
    "unknown command '" ++ verb ++ "' (expected culture, language, show or quit)"

namespace Command

/-- The command that selects a value for an option; a value is needed. -/
def selecting (kind : OptionKind) (verb value : String) : Except CommandError Command :=
  if value.isEmpty then .error (.missingValue verb) else .ok (.select kind value)

/-- The command of a verb and what follows it. -/
def ofVerb (verb value : String) : Except CommandError Command :=
  match verb with
  | "culture" => selecting .culture verb value
  | "language" => selecting .language verb value
  | "show" => .ok .showOutput
  | "quit" => .ok .quit
  | "exit" => .ok .quit
  | _ => .error (.unknownVerb verb)

/-- The command in a line, if the line is not blank. -/
def parse (line : String) : Except CommandError (Option Command) :=
  match Text.trim line.toList with
  | [] => .ok none
  | c :: cs =>
    let verb := (c :: cs).takeWhile fun d => !Text.isBlank d
    let value := Text.trim ((c :: cs).drop verb.length)
    (ofVerb (String.ofList verb) (String.ofList value)).map some

end Command

end SurfaceBridge
