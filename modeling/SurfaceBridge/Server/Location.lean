import SurfaceBridge.Url.Parser

set_option autoImplicit false

/-! # Where the server is

The editor is a page, and the server listens below the path of this page, on the same host and on
a port of its own. A connection is secure exactly when the page is.
-/

namespace SurfaceBridge

namespace Server

/-- A text that should be a URL and is not, and why. -/
structure InvalidUrl where
  url : String
  reason : Url.UrlError
deriving DecidableEq

/-- The sentence for a text that is no URL. -/
def InvalidUrl.message (e : InvalidUrl) : String :=
  "invalid socket url '" ++ e.url ++ "': " ++ e.reason.message

/-- Reads a URL, and keeps the text if it is none. -/
def parseUrl (text : String) : Except InvalidUrl Url :=
  match Url.parse text with
  | .error reason => .error ⟨text, reason⟩
  | .ok url => .ok url

/-- Where a page was loaded from. -/
structure PageLocation where
  isSecure : Bool
  host : String
  path : String
deriving DecidableEq

/-- The scheme of the connections of a page. -/
def socketScheme (isSecure : Bool) : String := if isSecure then "wss" else "ws"

/-- A path without slashes that follow a slash. -/
def collapseSlashes : List Char → List Char
  | [] => []
  | c :: rest =>
    if c = '/' ∧ rest.head? = some '/' then collapseSlashes rest else c :: collapseSlashes rest

/-- A path with one slash in front and without repeated slashes. -/
def normalizePath (path : String) : String :=
  String.ofList (collapseSlashes ('/' :: path.toList))

namespace PageLocation

/-- The location of the page with a URL. A page without a host is on the local host. -/
def ofUrl (text : String) : Except InvalidUrl PageLocation :=
  match parseUrl text with
  | .error e => .error e
  | .ok url =>
    .ok ⟨url.scheme = "https", url.hostText?.getD "localhost", url.path.text⟩

/-- The text of the URL at which a service of the page is reached. -/
def socketText (location : PageLocation) (port : UInt16) (service : String) : String :=
  socketScheme location.isSecure ++ "://" ++ location.host ++ ":"
    ++ String.ofList (Nat.toDigits 10 port.toNat)
    ++ normalizePath (location.path ++ "/" ++ service)

/-- The URL at which a service of the page is reached, if its text is a URL. -/
def socketUrl (location : PageLocation) (port : UInt16) (service : String) :
    Except InvalidUrl String :=
  (parseUrl (location.socketText port service)).map fun _ =>
    location.socketText port service

end PageLocation

end Server

end SurfaceBridge
