import SurfaceBridge.Url.Basic

set_option autoImplicit false

/-! # Reading URLs

An absolute URL is read from left to right: the scheme up to the first colon, the authority
behind slashes, and then path, query and fragment. The authority ends at the first slash,
question mark or number sign, and its host begins behind the last `@` and ends at the first colon
outside brackets. In the URLs of the known schemes a backslash is a slash.

Blanks and control characters at both ends do not matter, and tabs and line breaks are dropped
wherever they are.
-/

namespace SurfaceBridge

namespace Url

/-- A text without what does not matter in it. -/
def cleaned (s : List Char) : List Char :=
  let isOuter (c : Char) : Bool := c.toNat ≤ 0x20
  let trimmed := ((s.dropWhile isOuter).reverse.dropWhile isOuter).reverse
  trimmed.filter fun c => c ≠ '\t' && c ≠ '\n' && c ≠ '\r'

/-- Whether a character may stand in a scheme. -/
def isSchemeChar (c : Char) : Bool := c.isAlphanum || c = '+' || c = '-' || c = '.'

/-- The scheme of a text in lower case, and what is behind its colon. -/
def splitScheme (s : List Char) : Option (String × List Char) :=
  let scheme := s.takeWhile isSchemeChar
  match scheme, s.drop scheme.length with
  | first :: _, ':' :: rest =>
    if first.isAlpha then some (String.ofList (scheme.map Char.toLower), rest) else none
  | _, _ => none

/-- Whether a character ends the authority. -/
def endsAuthority (isSpecial : Bool) (c : Char) : Bool :=
  c = '/' || c = '?' || c = '#' || (isSpecial && c = '\\')

/-- What is in front of the last `@` and what is behind it. -/
def splitUser (authority : List Char) : Option (List Char × List Char) :=
  if authority.contains '@' then
    let host := (authority.reverse.takeWhile (· ≠ '@')).reverse
    some (authority.take (authority.length - host.length - 1), host)
  else none

/-- The user and the password in front of a host. An empty password counts as none. -/
def parseUser (s : List Char) : String × Option String :=
  let user := s.takeWhile (· ≠ ':')
  let password := (s.drop (user.length + 1))
  let encode (part : List Char) : String := String.ofList (encodeChars isUserEncoded part)
  (encode user, if password.isEmpty then none else some (encode password))

/-- Where the host ends: at the first colon outside brackets. -/
def splitHost : Bool → List Char → List Char × List Char
  | _, [] => ([], [])
  | isInside, c :: cs =>
    if c = ':' ∧ !isInside then ([], c :: cs)
    else
      let isInside := if c = '[' then true else if c = ']' then false else isInside
      let (host, rest) := splitHost isInside cs
      (c :: host, rest)

/-- The port at the start of a text, and what is behind its digits. No digits are no port. -/
def parsePort (s : List Char) : Except UrlError (Option Nat × List Char) :=
  let digits := s.takeWhile Char.isDigit
  let rest := s.drop digits.length
  let port := digits.foldl (fun (n : Nat) (c : Char) => 10 * n + (c.toNat - 48)) 0
  if 65535 < port then .error .invalidPort
  else
    match rest with
    | [] | '\\' :: _ => .ok (if digits.isEmpty then none else some port, rest)
    | _ => .error .invalidPort

/-- The query and the fragment of a URL. -/
def parseQuery (isSpecial : Bool) (s : List Char) : Option String × Option String :=
  let query := s.takeWhile (· ≠ '#')
  let fragment := match s.drop query.length with
    | [] => none
    | _ :: rest => some (String.ofList (encodeChars isFragmentEncoded rest))
  match query with
  | [] => (none, fragment)
  | _ :: rest => (some (String.ofList (encodeChars (isQueryEncoded isSpecial) rest)), fragment)

/-- Whether a character ends the path. -/
def endsPath (c : Char) : Bool := c = '?' || c = '#'

/-- A URL with the path, the query and the fragment that a text holds. -/
def withPath (isSpecial : Bool) (url : Url) (parse : List Char → Path) (s : List Char) : Url :=
  let (query, fragment) := parseQuery isSpecial (s.dropWhile (!endsPath ·))
  { url with path := parse (s.takeWhile (!endsPath ·)), query := query, fragment := fragment }

/-- The path behind an authority. In the URLs of the known schemes it is never empty. -/
def pathBehindAuthority (isSpecial : Bool) : List Char → Path
  | [] => .segments (if isSpecial then [""] else [])
  | c :: rest =>
    if c = '/' || (isSpecial && c = '\\') then Path.parse isSpecial rest
    else Path.parse isSpecial (c :: rest)

/-- A URL with nothing but its scheme. -/
def ofScheme (scheme : String) : Url := ⟨scheme, "", none, none, none, .plain "", none, none⟩

/-- Reads what is behind the slashes in front of an authority. -/
def parseAuthority (isSpecial : Bool) (scheme : String) (s : List Char) : Except UrlError Url := do
  let authority := s.takeWhile (!endsAuthority isSpecial ·)
  let behind := s.drop authority.length
  let (user, hostAndPort) := (splitUser authority).getD ([], authority)
  if user.isEmpty ∧ authority.contains '@' ∧ hostAndPort.isEmpty ∧ !behind.isEmpty then
    throw .emptyHost
  let (hostText, portText) := splitHost false hostAndPort
  if isSpecial ∧ hostText.isEmpty then throw .emptyHost
  let host ← if isSpecial then Host.parse hostText else Host.parseOther hostText
  if hostText.isEmpty ∧ !portText.isEmpty then throw .emptyHost
  let (port, rest) ← match portText with
    | [] => .ok (none, [])
    | _ :: digits => parsePort digits
  let (name, password) := parseUser user
  if hostText.isEmpty ∧ (!name.isEmpty ∨ password.isSome) then throw .emptyHost
  let url : Url :=
    { ofScheme scheme with
      user := name
      password := password
      host := if hostText.isEmpty then none else some host
      port := if port = defaultPort? scheme then none else port }
  return withPath isSpecial url (pathBehindAuthority isSpecial) (rest ++ behind)

/-- The host of a file, and what is behind it. A host that is the letter of a drive belongs to
the path, and the local host counts as none. -/
def parseFileHost (s : List Char) : Except UrlError (Option Host × List Char) :=
  let text := s.takeWhile (!endsAuthority true ·)
  if text.isEmpty ∨ Path.isDrive text then .ok (none, s)
  else
    match Host.parse text with
    | .error e => .error e
    | .ok host =>
      .ok (if host = .name "localhost" then none else some host, s.drop text.length)

/-- A URL of a file. A path on a drive has no host. -/
def withFilePath (host : Option Host) (s : List Char) : Url :=
  let (path, isOnDrive) := Path.parseFile (s.takeWhile (!endsPath ·))
  let url := withPath true (ofScheme "file") (fun _ => path) s
  { url with host := if isOnDrive then none else host }

/-- Whether a character is a slash in the URLs of the known schemes. -/
def isSlash (c : Char) : Bool := c = '/' || c = '\\'

/-- Reads what is behind the scheme of a file. -/
def parseFile (s : List Char) : Except UrlError Url :=
  match s with
  | a :: b :: rest =>
    if isSlash a ∧ isSlash b then
      match parseFileHost rest with
      | .error e => .error e
      | .ok (none, rest) => .ok (withFilePath none rest)
      | .ok (some host, c :: rest) =>
        .ok (withFilePath (some host) (if isSlash c then rest else c :: rest))
      | .ok (some host, []) => .ok (withFilePath (some host) [])
    else .ok (withFilePath none (if isSlash a then b :: rest else s))
  | [a] => .ok (withFilePath none (if isSlash a then [] else s))
  | [] => .ok (withFilePath none [])

/-- The URL in a text. -/
def parse (text : String) : Except UrlError Url :=
  match splitScheme (cleaned text.toList) with
  | none => .error .relativeWithoutBase
  | some (scheme, rest) =>
    match SchemeKind.ofScheme scheme with
    | .server => parseAuthority true scheme (rest.dropWhile isSlash)
    | .file => parseFile rest
    | .other =>
      match rest with
      | '/' :: '/' :: rest => parseAuthority false scheme rest
      | '/' :: rest => .ok (withPath false (ofScheme scheme) (Path.parse false) rest)
      | _ =>
        .ok (withPath false (ofScheme scheme)
          (fun s => .plain (String.ofList (encodeChars isControl s))) rest)

end Url

end SurfaceBridge
