import SurfaceBridge.Url.DomainName
import SurfaceBridge.Url.Error
import SurfaceBridge.Url.Ipv4
import SurfaceBridge.Url.Ipv6

set_option autoImplicit false

/-! # Hosts

A host is a name or an address. In the URLs of the known schemes a name is a domain name, and
one that ends in a number has to be an address of version 4. In other URLs a name is any text
without certain characters. An address of version 6 stands in brackets.
-/

namespace SurfaceBridge

namespace Url

/-- What a URL leads to. -/
inductive Host where
  | name (text : String)
  | ipv4 (address : Ipv4)
  | ipv6 (address : Ipv6)
deriving DecidableEq

namespace Host

/-- A host as it is written in a URL. -/
def text : Host → String
  | name text => text
  | ipv4 address => String.ofList address.text
  | ipv6 address => String.ofList ('[' :: (address.text ++ [']']))

/-- The address in brackets that starts behind `[`. -/
def parseBracketed (s : List Char) : Except UrlError Host :=
  match s.getLast? with
  | some ']' =>
    match Ipv6.parse s.dropLast with
    | some address => .ok (.ipv6 address)
    | none => .error .invalidIpv6
  | _ => .error .invalidIpv6

/-- The host that a text in ASCII form is. -/
def ofAscii (s : List Char) : Except UrlError Host :=
  if s.isEmpty then .error .emptyHost
  else if Ipv4.isRequired s then
    match Ipv4.parse s with
    | some address => .ok (.ipv4 address)
    | none => .error .invalidIpv4
  else .ok (.name (String.ofList s))

/-- The host of a URL with a known scheme. -/
def parse : List Char → Except UrlError Host
  | '[' :: rest => parseBracketed rest
  | s =>
    match decodeChars s with
    | none => .error .invalidDomainName
    | some decoded =>
      match DomainName.toAscii decoded with
      | none => .error .invalidDomainName
      | some ascii => ofAscii ascii

/-- The characters that may not stand in a name. -/
def isForbidden (c : Char) : Bool :=
  ['\x00', '\t', '\n', '\r', ' ', '#', '/', ':', '<', '>', '?', '@', '[', '\\', ']', '^',
    '|'].contains c

/-- The host of a URL with any other scheme. -/
def parseOther : List Char → Except UrlError Host
  | '[' :: rest => parseBracketed rest
  | s =>
    if s.any isForbidden then .error .invalidHostCharacter
    else .ok (.name (String.ofList (encodeChars isControl s)))

end Host

end Url

end SurfaceBridge
