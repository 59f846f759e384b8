import SurfaceBridge.Dictionary

set_option autoImplicit false

/-! # JSON values

A number is an integer that fits 64 bits, with or without a sign, or a double. An object is a
list of members in strictly increasing order of their names (`Dictionary`).
-/

namespace SurfaceBridge

/-- A JSON number: an integer or a double. -/
inductive Json.Number where
  | integer (value : Int)
  | real (value : Float)

/-- A JSON value. -/
inductive Json where
  | null
  | boolean (value : Bool)
  | number (value : Json.Number)
  | text (value : String)
  | list (items : List Json)
  | object (members : List (String × Json))

namespace Json

/-- A whole number as a value. -/
def natural (n : Nat) : Json := .number (.integer n)

/-- A whole number with a sign as a value. -/
def integer (n : Int) : Json := .number (.integer n)

/-- The least integer that is read as one. -/
def leastInteger : Int := -9223372036854775808

/-- The first natural number that is too large to be read as an integer. -/
def integerLimit : Nat := 18446744073709551616

/-- The member of an object under a name; nothing for other values. -/
def get? (name : String) : Json → Option Json
  | .object members => Dictionary.lookup name members
  | _ => none

/-- The value as a text. -/
def text? : Json → Option String
  | .text s => some s
  | _ => none

/-- The value as a natural number. -/
def natural? : Json → Option Nat
  | .number (.integer n) => if 0 ≤ n then some n.toNat else none
  | _ => none

/-- The items of a list. -/
def items? : Json → Option (List Json)
  | .list items => some items
  | _ => none

/-- Whether the value is `null`. -/
def isNull : Json → Bool
  | .null => true
  | _ => false

end Json

end SurfaceBridge
