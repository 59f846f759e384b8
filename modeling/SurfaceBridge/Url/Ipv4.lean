import SurfaceBridge.Url.PercentEncoding

set_option autoImplicit false

/-! # Addresses of version 4

An address is four numbers with dots between them. A number is decimal, or octal behind a `0`, or
hexadecimal behind `0x`. With fewer than four of them, the last one fills the bytes that are
left, and a dot may follow the last one.
-/

namespace SurfaceBridge

namespace Url

/-- An address of version 4. -/
structure Ipv4 where
  value : Nat
  value_lt : value < 0x100000000
deriving DecidableEq

namespace Ipv4

/-- The number that digits of a base write, if they all are digits of it. -/
def number? (base : Nat) (digits : List Char) : Option Nat :=
  digits.foldl (fun (number : Option Nat) (c : Char) =>
    match number, hexValue? c with
    | some n, some d => if d < base then some (base * n + d) else none
    | _, _ => none) (some 0)

/-- The number in one part of an address. -/
def part? : List Char → Option Nat
  | [] => none
  | '0' :: 'x' :: digits => number? 16 digits
  | '0' :: 'X' :: digits => number? 16 digits
  | '0' :: c :: digits => number? 8 (c :: digits)
  | digits => number? 10 digits

/-- The parts of a host. A dot at its end ends the last part. -/
def parts (host : List Char) : List (List Char) :=
  let parts := host.splitOnP (· = '.')
  if 1 < parts.length ∧ parts.getLast? = some [] then parts.dropLast else parts

/-- Whether a host has to be an address: its last part is a number, or digits that are no number
in their base. -/
def isRequired (host : List Char) : Bool :=
  match (parts host).getLast? with
  | none => false
  | some last => (!last.isEmpty && last.all Char.isDigit) || (part? last).isSome

/-- The value of an address, given the numbers in its parts and how many bytes they have to
fill. -/
def value? : List Nat → Nat → Option Nat
  | [], _ => none
  | [last], bytes => if last < Nat.pow 256 bytes then some last else none
  | n :: ns, bytes + 1 =>
    if n < 256 then (value? ns bytes).map fun rest => n * Nat.pow 256 bytes + rest else none
  | _, 0 => none

/-- The address in a host. -/
def parse (host : List Char) : Option Ipv4 :=
  match (parts host).mapM part? with
  | none => none
  | some numbers =>
    match value? numbers 4 with
    | none => none
    | some value => if h : value < 0x100000000 then some ⟨value, h⟩ else none

/-- An address as four decimal numbers. -/
def text (a : Ipv4) : List Char :=
  let byte (place : Nat) : List Char := Nat.toDigits 10 (a.value / Nat.pow 256 place % 256)
  byte 3 ++ '.' :: byte 2 ++ '.' :: byte 1 ++ '.' :: byte 0

end Ipv4

end Url

end SurfaceBridge
