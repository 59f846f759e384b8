set_option autoImplicit false

/-! # Percent encoding

A byte is encoded as `%` and two hexadecimal digits. Which characters are encoded depends on the
part of a URL they stand in, so each part has a set of them. Characters outside ASCII are encoded
in every part, as the bytes of their UTF-8 form.
-/

namespace SurfaceBridge

namespace Url

/-- The encoded form of a byte. -/
def encodeByte (b : UInt8) : List Char :=
  let digit (n : Nat) : Char := (Nat.digitChar n).toUpper
  ['%', digit (b.toNat / 16), digit (b.toNat % 16)]

/-- A text with the characters of a set encoded. -/
def encodeChars (isEncoded : Char → Bool) (s : List Char) : List Char :=
  s.flatMap fun c =>
    if 0x80 ≤ c.toNat || isEncoded c then (String.utf8EncodeChar c).flatMap encodeByte else [c]

/-- Bytes with all but the ASCII characters outside a set encoded. -/
def encodeBytes (isEncoded : Char → Bool) (bytes : List UInt8) : List Char :=
  bytes.flatMap fun b =>
    let c := Char.ofNat b.toNat
    if 0x80 ≤ b.toNat || isEncoded c then encodeByte b else [c]

/-- The control characters of ASCII. -/
def isControl (c : Char) : Bool := c.toNat < 0x20 || c.toNat = 0x7F

/-- What is encoded in a fragment. -/
def isFragmentEncoded (c : Char) : Bool := isControl c || [' ', '"', '<', '>', '\x60'].contains c

/-- What is encoded in a query. The URLs of most known schemes encode `'` as well. -/
def isQueryEncoded (isSpecial : Bool) (c : Char) : Bool :=
  isControl c || [' ', '"', '#', '<', '>'].contains c || (isSpecial && c = '\'')

/-- What is encoded in a path. -/
def isPathEncoded (c : Char) : Bool :=
  isFragmentEncoded c || ['#', '?', '\x7b', '\x7d'].contains c

/-- What is encoded in the names in front of a host. -/
def isUserEncoded (c : Char) : Bool :=
  isPathEncoded c || ['/', ':', ';', '=', '@', '[', '\\', ']', '^', '|'].contains c

/-- What is encoded in the name of a file. -/
def isFileNameEncoded (c : Char) : Bool := isPathEncoded c || ['/', '%', '\\'].contains c

/-- The value of a hexadecimal digit. -/
def hexValue? (c : Char) : Option Nat :=
  if c.isDigit then some (c.toNat - 48)
  else if 'a' ≤ c ∧ c ≤ 'f' then some (c.toNat - 87)
  else if 'A' ≤ c ∧ c ≤ 'F' then some (c.toNat - 55)
  else none

/-- The bytes of a text in which some bytes are encoded. A `%` without two digits behind it
stands for itself. -/
def decodeBytes : List Char → List UInt8
  | [] => []
  | '%' :: a :: b :: rest =>
    match hexValue? a, hexValue? b with
    | some high, some low => UInt8.ofNat (16 * high + low) :: decodeBytes rest
    | _, _ => '%'.toUInt8 :: decodeBytes (a :: b :: rest)
  | c :: rest => String.utf8EncodeChar c ++ decodeBytes rest
termination_by s => s.length

/-- The text that is encoded, unless its bytes are no UTF-8. -/
def decodeChars (s : List Char) : Option (List Char) :=
  if s.contains '%' then (String.fromUTF8? ⟨(decodeBytes s).toArray⟩).map String.toList
  else some s

end Url

end SurfaceBridge
