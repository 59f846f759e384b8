import SurfaceBridge.Unicode.Segmentation

set_option autoImplicit false

/-! # Classes of characters by name

Names are matched loosely: case, blanks, hyphens and underscores do not matter, and neither does
an `is` in front. A name alone is tried as a property, as a general category and as a script, in
this order.
-/

namespace SurfaceBridge

namespace Unicode

/-- An upper case ASCII letter in lower case; other characters as they are. -/
def lowerAscii (c : Char) : Char := if 'A' ≤ c ∧ c ≤ 'Z' then Char.ofNat (c.toNat + 32) else c

/-- The form of a name in which names are compared. -/
def looseName (name : String) : String :=
  let (isPrefixed, rest) := match name.toList with
    | i :: s :: rest =>
      if lowerAscii i = 'i' ∧ lowerAscii s = 's' then (true, rest) else (false, i :: s :: rest)
    | rest => (false, rest)
  let kept := (rest.filter fun c => c ≠ ' ' && c ≠ '_' && c ≠ '-' && c.toNat < 0x80).map lowerAscii
  if isPrefixed ∧ kept = ['c'] then "isc" else String.ofList kept

/-- The code points of a general category, of a group of them, or of one of the three classes
that are counted among them. -/
def generalCategory? (name : String) : Option RangeTable :=
  match name with
  | "any" => some #[(0, RangeTable.lastPoint)]
  | "ascii" => some #[(0, 0x7F)]
  | "assigned" => some (agedCategory "Cn").complement
  | _ =>
    (categoryNames.find? fun entry => entry.1.contains name).map fun entry => categorySet entry.2

/-- Names that belong to a general category although a property goes by them as well. -/
def isCategoryFirst (name : String) : Bool := name = "cf" || name = "sc" || name = "lc"

/-- The class with a name. -/
def namedClass? (name : String) : Option RangeTable :=
  let name := looseName name
  let property := if isCategoryFirst name then none else agedProperty? name
  property <|> generalCategory? name <|> agedScript? name

/-- The class of the characters whose property has a value. -/
def valuedClass? (property value : String) : Option RangeTable :=
  match looseName property with
  | "gc" | "generalcategory" => generalCategory? (looseName value)
  | "sc" | "script" => agedScript? (looseName value)
  | "scx" | "scriptextensions" => agedScriptExtension? (looseName value)
  | "age" => age? (looseName value)
  | "gcb" | "graphemeclusterbreak" => clusterBreak? (looseName value)
  | "wb" | "wordbreak" => wordBreak? (looseName value)
  | "sb" | "sentencebreak" => sentenceBreak? (looseName value)
  | _ => none

/-- The characters that words are made of. -/
def wordSet : RangeTable :=
  unions [propertySet "alphabetic", categorySet ["Mn", "Mc", "Me", "Nd", "Pc"],
    propertySet "joincontrol"]

/-- The characters that are blanks. -/
def spaceSet : RangeTable := propertySet "whitespace"

/-- The decimal digits of all scripts. -/
def digitSet : RangeTable := categorySet ["Nd"]

end Unicode

end SurfaceBridge
