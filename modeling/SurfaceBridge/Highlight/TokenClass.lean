import SurfaceBridge.Json.Decoder

set_option autoImplicit false

/-! # Token classes

The class of a span of text says how the span is coloured. A few classes have names that are
known here; every other name is a class of its own.
-/

namespace SurfaceBridge

/-- The class of a span of text. -/
inductive TokenClass where
  | keyword
  | type
  | text
  | number
  | comment
  | operator
  | delimiter
  | identifier
  | variableName
  | function
  | constant
  | annotation
  | invalid
  | custom (name : String)
deriving DecidableEq

namespace TokenClass

/-- The name of a class. -/
def name : TokenClass → String
  | keyword => "keyword"
  | type => "type"
  | text => "string"
  | number => "number"
  | comment => "comment"
  | operator => "operator"
  | delimiter => "delimiter"
  | identifier => "identifier"
  | variableName => "variable"
  | function => "function"
  | constant => "constant"
  | annotation => "annotation"
  | invalid => "invalid"
  | custom name => name

/-- The class with a name. -/
def ofName : String → TokenClass
  | "keyword" => keyword
  | "type" => type
  | "string" => text
  | "number" => number
  | "comment" => comment
  | "operator" => operator
  | "delimiter" => delimiter
  | "identifier" => identifier
  | "variable" => variableName
  | "function" => function
  | "constant" => constant
  | "annotation" => annotation
  | "invalid" => invalid
  | other => custom other

/-- Whether a class is one of those that are known by name. -/
def isKnown : TokenClass → Bool
  | custom _ => false
  | _ => true

/-- A class is written as its name. -/
def decoder : Json.Decoder TokenClass := Json.Decoder.text.map ofName

/-- A class as a JSON value. -/
def toJson (c : TokenClass) : Json := .text c.name

end TokenClass

end SurfaceBridge
