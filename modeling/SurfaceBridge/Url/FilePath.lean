import SurfaceBridge.Url.PercentEncoding

set_option autoImplicit false

/-! # URLs of files

An absolute path of a file is turned into a URL name by name. Slashes only part the names, and
a name of one dot is left out.
-/

namespace SurfaceBridge

namespace Url

/-- The names in a path. -/
def fileNames (path : List UInt8) : List (List UInt8) :=
  (path.splitOnP (· = '/'.toUInt8)).filter fun name => !name.isEmpty && name != ['.'.toUInt8]

/-- The URL of the file at a path, which has to start with a slash. -/
def ofFilePath (path : List UInt8) : Option String :=
  if path.head? = some '/'.toUInt8 then
    let names := (fileNames path).map fun name => '/' :: encodeBytes isFileNameEncoded name
    let text := if names.isEmpty then ['/'] else names.flatten
    some (String.ofList ("file://".toList ++ text))
  else none

end Url

end SurfaceBridge
