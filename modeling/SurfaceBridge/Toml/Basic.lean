import SurfaceBridge.Json.Basic

set_option autoImplicit false

/-! # Values of configuration files

A configuration file is a table. How a table came to be decides whether later lines may add to
it: a table between braces is complete, and the others are open in different ways.

Values are taken over as JSON. A date has no form there and is taken over as an empty object.
-/

namespace SurfaceBridge

namespace Toml

/-- How a table came to be: between braces, by a header of its own, as a parent that a header
mentions, or as a parent that a dotted key mentions. -/
inductive TableKind where
  | braced
  | headed
  | implied
  | dotted
deriving DecidableEq

/-- A value. The items of an array of tables come in reverse. -/
inductive Value where
  | text (value : String)
  | integer (value : Int)
  | real (value : Float)
  | boolean (value : Bool)
  | date
  | list (items : List Value)
  | table (kind : TableKind) (entries : List (String × Value))
  | tables (items : List (List (String × Value)))

/-- The entries of a table, as a dictionary. -/
abbrev Entries := List (String × Value)

namespace Value

mutual

/-- A value as JSON. -/
def toJson : Value → Json
  | text s => .text s
  | integer n => .number (.integer n)
  | real x => .number (.real x)
  | boolean b => .boolean b
  | date => .object []
  | list items => .list (listToJson items)
  | table _ entries => .object (entriesToJson entries)
  | tables items => .list (tablesToJson items).reverse

/-- Values as JSON. -/
def listToJson : List Value → List Json
  | [] => []
  | v :: vs => toJson v :: listToJson vs

/-- The entries of a table as members of an object. -/
def entriesToJson : List (String × Value) → List (String × Json)
  | [] => []
  | (key, v) :: rest => (key, toJson v) :: entriesToJson rest

/-- Tables as objects. -/
def tablesToJson : List (List (String × Value)) → List Json
  | [] => []
  | entries :: rest => .object (entriesToJson entries) :: tablesToJson rest

end

end Value

end Toml

end SurfaceBridge
