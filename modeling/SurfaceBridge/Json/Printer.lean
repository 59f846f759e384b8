import SurfaceBridge.Json.Basic
import SurfaceBridge.Decimal.Shortest

set_option autoImplicit false

/-! # Compact JSON text

Values are written without blanks, members in the order of the object. A double is written with
the shortest digits that round to it: positionally, with at least one decimal, while its
exponent is between -5 and 15, and with a signed exponent otherwise. There is no text for a
double that is not finite; it is written as `null`.

Only the quote, the backslash and control characters are escaped in texts.
-/

namespace SurfaceBridge

namespace Json

/-- The digits of a natural number in base ten. -/
def naturalText (n : Nat) : List Char := Nat.toDigits 10 n

/-- The digits of a whole number, after a minus sign if it is negative. -/
def integerText (n : Int) : List Char :=
  if n < 0 then '-' :: naturalText n.natAbs else naturalText n.natAbs

/-- A list of digits without the zeros at its end, but with at least one digit. -/
def trimZeros (digits : List Char) : List Char :=
  match (digits.reverse.dropWhile (· = '0')).reverse with
  | [] => ['0']
  | kept => kept

/-- The least exponent of a double that is written positionally. -/
def leastPositional : Int := -5

/-- The greatest exponent of a double that is written positionally. -/
def greatestPositional : Int := 15

/-- Digits with the point after the first one and the exponent of that one, in the notation
that the exponent asks for. -/
def layout (digits : List Char) (exponent : Int) : List Char :=
  if leastPositional ≤ exponent ∧ exponent ≤ greatestPositional then
    if exponent < 0 then
      '0' :: '.' :: (List.replicate (exponent.natAbs - 1) '0' ++ digits)
    else
      let whole := exponent.toNat + 1
      if digits.length ≤ whole then
        digits ++ List.replicate (whole - digits.length) '0' ++ ['.', '0']
      else digits.take whole ++ '.' :: digits.drop whole
  else
    let mantissa := match digits with
      | [] => ['0']
      | [d] => [d]
      | d :: ds => d :: '.' :: ds
    let sign := if exponent < 0 then '-' else '+'
    mantissa ++ 'e' :: sign :: naturalText exponent.natAbs

/-- The text of a finite double. -/
def realText (x : Float) : List Char :=
  let magnitude :=
    let decimal := Decimal.shortest x
    let digits := naturalText decimal.digits
    if decimal.digits = 0 then ['0', '.', '0']
    else layout (trimZeros digits) (decimal.exponent + digits.length - 1)
  if x.toBits >>> 63 = 0 then magnitude else '-' :: magnitude

/-- The text of a number. -/
def Number.print : Number → List Char
  | .integer n => integerText n
  | .real x => if x.isFinite then realText x else ['n', 'u', 'l', 'l']

/-- A hexadecimal digit in lower case. -/
def hexDigit (n : Nat) : Char := Nat.digitChar (n % 16)

/-- The written form of one character of a text. -/
def escapeChar (c : Char) : List Char :=
  if c = '"' then ['\\', '"']
  else if c = '\\' then ['\\', '\\']
  else if c = '\x08' then ['\\', 'b']
  else if c = '\t' then ['\\', 't']
  else if c = '\n' then ['\\', 'n']
  else if c = '\x0c' then ['\\', 'f']
  else if c = '\r' then ['\\', 'r']
  else if c.toNat < 0x20 then
    ['\\', 'u', '0', '0', hexDigit (c.toNat / 16), hexDigit c.toNat]
  else [c]

/-- A text between quotes, with its escapes. -/
def quote (s : String) : List Char := '"' :: (s.toList.flatMap escapeChar ++ ['"'])

mutual

/-- The compact text of a value. -/
def print : Json → List Char
  | .null => ['n', 'u', 'l', 'l']
  | .boolean true => ['t', 'r', 'u', 'e']
  | .boolean false => ['f', 'a', 'l', 's', 'e']
  | .number n => n.print
  | .text s => quote s
  | .list items => '[' :: (printItems items ++ [']'])
  | .object members => '{' :: (printMembers members ++ ['}'])

/-- The items of a list with commas between them. -/
def printItems : List Json → List Char
  | [] => []
  | [v] => print v
  | v :: vs => print v ++ ',' :: printItems vs

/-- The members of an object with commas between them. -/
def printMembers : List (String × Json) → List Char
  | [] => []
  | [(k, v)] => quote k ++ ':' :: print v
  | (k, v) :: ms => quote k ++ ':' :: (print v ++ ',' :: printMembers ms)

end

/-- The compact text of a value, as a string. -/
def render (v : Json) : String := String.ofList v.print

/-- The text of an object whose members come in a given order, as texts of their own. -/
def recordText (members : List (String × List Char)) : List Char :=
  let written := members.map fun m => quote m.1 ++ ':' :: m.2
  '{' :: ([','].intercalate written ++ ['}'])

end Json

end SurfaceBridge
