set_option autoImplicit false

/-! # Files

What may stand where a file is looked for, and what can go wrong with it.
-/

namespace SurfaceBridge

/-- What goes wrong when a file is read or written. -/
inductive FileError where
  | notFound
  | isDirectory
  | notDirectory
  | invalidText
deriving DecidableEq

/-- The sentence for a file error. -/
def FileError.message : FileError → String
  | .notFound => "No such file or directory (os error 2)"
  | .isDirectory => "Is a directory (os error 21)"
  | .notDirectory => "Not a directory (os error 20)"
  | .invalidText => "stream did not contain valid UTF-8"

/-- What stands at a path. A path that goes on behind a file leads to nothing. -/
inductive StoredFile where
  | absent
  | behindFile
  | directory
  | file (bytes : ByteArray)

/-- The text of a file. -/
def StoredFile.readText : StoredFile → Except FileError String
  | .absent => .error .notFound
  | .behindFile => .error .notDirectory
  | .directory => .error .isDirectory
  | .file bytes =>
    match String.fromUTF8? bytes with
    | none => .error .invalidText
    | some s => .ok s

end SurfaceBridge
