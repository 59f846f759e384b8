import SurfaceBridge.Url.Host
import SurfaceBridge.Url.Path

set_option autoImplicit false

/-! # URLs

The parts of an absolute URL. Parts that are not there differ from parts that are empty.
-/

namespace SurfaceBridge

/-- A URL. A port that is the usual one of its scheme is left out. -/
structure Url where
  scheme : String
  user : String
  password : Option String
  host : Option Url.Host
  port : Option Nat
  path : Url.Path
  query : Option String
  fragment : Option String
deriving DecidableEq

namespace Url

/-- How the rest of a URL is read depends on its scheme: there are the schemes of servers, the
scheme of files, and all others. -/
inductive SchemeKind where
  | server
  | file
  | other
deriving DecidableEq

/-- The port that is usual for a scheme. -/
def defaultPort? (scheme : String) : Option Nat :=
  match scheme with
  | "http" | "ws" => some 80
  | "https" | "wss" => some 443
  | "ftp" => some 21
  | _ => none

/-- The kind of a scheme. -/
def SchemeKind.ofScheme (scheme : String) : SchemeKind :=
  if scheme = "file" then .file
  else if (defaultPort? scheme).isSome then .server
  else .other

/-- The port of a URL: its own, or else the usual one. -/
def effectivePort (url : Url) : Option Nat := url.port <|> defaultPort? url.scheme

/-- The host of a URL as it is written. An empty host counts as none. -/
def hostText? (url : Url) : Option String := url.host.map Host.text

end Url

end SurfaceBridge
