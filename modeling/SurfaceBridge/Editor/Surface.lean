set_option autoImplicit false

/-! # Surfaces

The editor shows three texts: the code, the schema, and the output that is made from them. A
text that is shown has an address, a language and a version.
-/

namespace SurfaceBridge

/-- The three surfaces of the editor. -/
inductive Surface where
  | primary
  | schema
  | output
deriving DecidableEq

/-- The name of a surface. -/
def Surface.name : Surface → String
  | .primary => "primary"
  | .schema => "schema"
  | .output => "output"

/-- The document of a surface. Its version starts at one and grows with each change of the
text. -/
structure Document where
  uri : String
  language : String
  text : String
  version : Nat
deriving DecidableEq

/-- A change of a text. It carries the language that the document had when it was changed, and
the whole new text. -/
structure Change where
  surface : Surface
  uri : String
  language : String
  version : Nat
  text : String
deriving DecidableEq

/-- One value for each surface. -/
structure Panes (α : Type) where
  primary : α
  schema : α
  output : α
deriving DecidableEq

namespace Panes

variable {α : Type}

/-- The same value for each surface. -/
def all (a : α) : Panes α := ⟨a, a, a⟩

/-- The value for a surface. -/
def get (p : Panes α) : Surface → α
  | .primary => p.primary
  | .schema => p.schema
  | .output => p.output

/-- Replaces the value for a surface. -/
def set (p : Panes α) (s : Surface) (a : α) : Panes α :=
  match s with
  | .primary => { p with primary := a }
  | .schema => { p with schema := a }
  | .output => { p with output := a }

theorem get_set (p : Panes α) (s t : Surface) (a : α) :
    (p.set s a).get t = if t = s then a else p.get t := by
  cases s <;> cases t <;> rfl

end Panes

end SurfaceBridge
