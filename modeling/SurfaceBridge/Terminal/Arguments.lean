import SurfaceBridge.Terminal.Configuration

set_option autoImplicit false

/-! # Arguments

The program is started with options. An option is written behind two hyphens, and its value
behind it or behind an equals sign. A value that starts with a hyphen needs the equals sign,
unless it is a hyphen alone. Each option may be given once, and switches have no value.

Arguments are read from left to right, and the first that asks for help or the version or that is
wrong decides.
-/

namespace SurfaceBridge

/-- What the program is started with. -/
structure Arguments where
  config : Option String := none
  server : ServerFlags := {}
  code : Option String := none
  schema : Option String := none
  state : Option String := none
  output : Option String := none
  isWatching : Bool := false
  outputLanguage : Option String := none

/-- What the arguments ask for. -/
inductive Request where
  | run (arguments : Arguments)
  | help
  | version
  | misuse

namespace Arguments

/-- Gives a value to an option that has none yet. -/
def fill {α : Type} (old : Option α) (value : Option α) (put : α → Arguments) :
    Option Arguments :=
  match old, value with
  | none, some value => some (put value)
  | _, _ => none

/-- The path that a value is. -/
def path? (value : String) : Option String := if value.isEmpty then none else some value

/-- The port that a value is: a number that may have a sign. -/
def port? (value : String) : Option UInt16 :=
  let (isNegative, digits) := match value.toList with
    | '-' :: rest => (true, rest)
    | '+' :: rest => (false, rest)
    | rest => (false, rest)
  match Server.decimal? digits with
  | some n =>
    if n < UInt16.size ∧ (!isNegative ∨ n = 0) then some (UInt16.ofNat n) else none
  | none => none

/-- Gives a value to an option by its name. -/
def give? (a : Arguments) (name value : String) : Option Arguments :=
  match name with
  | "config" => fill a.config (path? value) fun v => { a with config := v }
  | "host" => fill a.server.host (some value) fun v => { a with server.host := v }
  | "port" => fill a.server.port (port? value) fun v => { a with server.port := v }
  | "page-path" => fill a.server.pagePath (some value) fun v => { a with server.pagePath := v }
  | "code" => fill a.code (path? value) fun v => { a with code := v }
  | "schema" => fill a.schema (path? value) fun v => { a with schema := v }
  | "state" => fill a.state (path? value) fun v => { a with state := v }
  | "output" => fill a.output (path? value) fun v => { a with output := v }
  | "output-language" =>
    fill a.outputLanguage (some value) fun v => { a with outputLanguage := v }
  | _ => none

/-- Turns a switch on that is off. -/
def turnOn? (a : Arguments) (name : String) : Option Arguments :=
  match name with
  | "secure" => if a.server.isSecure then none else some { a with server.isSecure := true }
  | "watch" => if a.isWatching then none else some { a with isWatching := true }
  | _ => none

/-- Whether a name is that of a switch. -/
def isSwitch (name : String) : Bool := name = "secure" || name = "watch"

/-- The value in an argument behind an option. -/
def value? (argument : String) : Option String :=
  match argument.toList with
  | '-' :: _ :: _ => none
  | _ => some argument

/-- The name of an option and the value behind its equals sign. -/
def splitOption (s : List Char) : String × Option String :=
  let name := s.takeWhile (· ≠ '=')
  match s.drop name.length with
  | [] => (String.ofList name, none)
  | _ :: value => (String.ofList name, some (String.ofList value))

/-- What the rest of the arguments asks for, when `a` is given already. -/
def read (a : Arguments) : List String → Request
  | [] => .run a
  | argument :: rest =>
    match argument.toList with
    | ['-', '-'] => if rest.isEmpty then .run a else .misuse
    | '-' :: '-' :: option =>
      match splitOption option, rest with
      | ("help", none), _ => .help
      | ("version", none), _ => .version
      | (name, some value), rest =>
        match a.give? name value with
        | some a => read a rest
        | none => .misuse
      | (name, none), rest =>
        if isSwitch name then
          match a.turnOn? name with
          | some a => read a rest
          | none => .misuse
        else
          match rest with
          | [] => .misuse
          | next :: rest =>
            match (value? next).bind (a.give? name) with
            | some a => read a rest
            | none => .misuse
    | '-' :: 'h' :: _ => .help
    | '-' :: 'V' :: _ => .version
    | _ => .misuse

/-- What a list of arguments asks for. -/
def parse (arguments : List String) : Request := read {} arguments

end Arguments

/-- The text of the help. -/
def helpText : String :=
  "\n".intercalate
    ["Bridge ov documents to an ovLanguage server",
      "",
      "Usage: ovbridge [OPTIONS]",
      "",
      "Options:",
      "      --config <FILE>         TOML configuration file",
      "      --host <HOST>           Host the language service runs on",
      "      --port <PORT>           Language service port (overrides OV_LANGUAGE_PORT)",
      "      --secure                Connect with \x60wss\x60",
      "      --page-path <PATH>      Page path the service path is appended to",
      "      --code <FILE>           Primary \x60ov\x60 document",
      "      --schema <FILE>         Schema document (YAML)",
      "      --state <FILE>          JSON file the content store is loaded from and saved to",
      "      --output <FILE>         Write generated code here instead of stdout",
      "      --watch                 Re-read \x60--code\x60 / \x60--schema\x60 when they change on disk",
      "      --output-language <ID>  Initial language id of the output surface [default: plaintext]",
      "  -h, --help                  Print help",
      "  -V, --version               Print version",
      ""]

/-- The text of the version. -/
def versionText : String := "ovbridge 0.1.0\n"

end SurfaceBridge
