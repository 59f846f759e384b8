import SurfaceBridge.Editor.Content

set_option autoImplicit false

/-! # Option controls

Two options, the culture and the target language, are chosen with controls that offer a list of
values. A page may have neither control, one, or both.

The selection of a control is a position in its list, so it is always one of the values that are
offered, and there is none only if nothing is offered.
-/

namespace SurfaceBridge

/-- The two options. -/
inductive OptionKind where
  | culture
  | language
deriving DecidableEq

namespace OptionKind

/-- Both kinds, in the order in which they are sent. -/
def all : List OptionKind := [.culture, .language]

/-- The key under which an option is stored. -/
def contentKey : OptionKind → ContentKey
  | .culture => .culture
  | .language => .language

/-- The id of the control of an option. -/
def controlId : OptionKind → String
  | .culture => "cultureSelectBox"
  | .language => "languageSelectBox"

end OptionKind

/-- A value that is offered, and the label it is shown with. -/
structure Choice where
  value : String
  label : String
deriving DecidableEq

/-- A choice that is shown as its value. -/
def Choice.ofValue (value : String) : Choice := ⟨value, value⟩

/-- A control: its id, the choices it offers and the position of the selected one. -/
structure SelectControl where
  id : String
  choices : List Choice
  position : Nat
deriving DecidableEq

namespace SelectControl

/-- A control with its first choice selected. -/
def ofChoices (id : String) (choices : List Choice) : SelectControl := ⟨id, choices, 0⟩

/-- The selected value. -/
def selected? (c : SelectControl) : Option String := (c.choices[c.position]?).map (·.value)

/-- The position of the first choice with a value. -/
def find? (c : SelectControl) (value : String) : Option Nat :=
  c.choices.findIdx? fun choice => choice.value = value

/-- Selects a value if it is offered, and says whether it is. -/
def select (value : String) (c : SelectControl) : Bool × SelectControl :=
  match c.find? value with
  | some position => (true, { c with position := position })
  | none => (false, c)

end SelectControl

/-- The controls of a page. -/
structure PageControls where
  culture : Option SelectControl
  language : Option SelectControl
deriving DecidableEq

namespace PageControls

/-- A page without controls. -/
def none : PageControls := ⟨.none, .none⟩

/-- The control of an option that offers values, if there are any. -/
def controlOf (kind : OptionKind) (values : List String) : Option SelectControl :=
  if values.isEmpty then .none else some (.ofChoices kind.controlId (values.map Choice.ofValue))

/-- The controls that offer values; without values there is no control. -/
def ofValues (cultures languages : List String) : PageControls :=
  ⟨controlOf .culture cultures, controlOf .language languages⟩

/-- The control of an option. -/
def get? (p : PageControls) : OptionKind → Option SelectControl
  | .culture => p.culture
  | .language => p.language

/-- Replaces the control of an option. -/
def put (p : PageControls) (kind : OptionKind) (c : Option SelectControl) : PageControls :=
  match kind with
  | .culture => { p with culture := c }
  | .language => { p with language := c }

/-- The selected value of an option. -/
def selected? (p : PageControls) (kind : OptionKind) : Option String :=
  (p.get? kind).bind SelectControl.selected?

/-- Selects a value in the control of an option, and says whether it is offered; nothing without
the control. -/
def select (kind : OptionKind) (value : String) (p : PageControls) :
    Option Bool × PageControls :=
  match p.get? kind with
  | .none => (.none, p)
  | some c =>
    let (accepted, c) := c.select value
    (some accepted, p.put kind (some c))

theorem get?_put (p : PageControls) (k l : OptionKind) (c : Option SelectControl) :
    (p.put k c).get? l = if l = k then c else p.get? l := by
  cases k <;> cases l <;> rfl

end PageControls

end SurfaceBridge
