import SurfaceBridge.Toml.Basic

set_option autoImplicit false

/-! # Adding to tables

A key path leads from a table through tables to an entry. Tables that it mentions and that do
not exist come to be on the way. A path ends at a value that is no table and at a table between
braces; at an array of tables it goes on in the last one.

A dotted key may lead only through tables that have no header, and the table in which its last
part stands has to be made by dotted keys too. No key is given twice.
-/

namespace SurfaceBridge

namespace Toml

/-- Follows a path from the entries of a table and changes the table at its end. -/
def follow (isDotted : Bool) :
    List String → (TableKind → Entries → Option Entries) → TableKind → Entries → Option Entries
  | [], change, kind, entries => change kind entries
  | key :: path, change, _, entries =>
    match Dictionary.lookup key entries with
    | none =>
      let kind : TableKind := if isDotted then .dotted else .implied
      (follow isDotted path change kind []).map fun inner =>
        Dictionary.insert key (.table kind inner) entries
    | some (.table kind inner) =>
      if kind = .braced ∨ (isDotted ∧ kind = .headed) then none
      else
        (follow isDotted path change kind inner).map fun inner =>
          Dictionary.insert key (.table kind inner) entries
    | some (.tables (last :: before)) =>
      (follow isDotted path change .headed last).map fun last =>
        Dictionary.insert key (.tables (last :: before)) entries
    | some _ => none

/-- Adds the value of a dotted key to a table. -/
def addEntry (path : List String) (key : String) (value : Value) (kind : TableKind)
    (entries : Entries) : Option Entries :=
  let add (kind : TableKind) (entries : Entries) : Option Entries :=
    if kind = .dotted ↔ path.isEmpty then none
    else
      match Dictionary.lookup key entries with
      | some _ => none
      | none => some (Dictionary.insert key value entries)
  follow true path add kind entries

/-- Opens the table of a header. A table that was only mentioned before may get its header. -/
def openTable (path : List String) (key : String) (entries : Entries) : Option Entries :=
  let add (_ : TableKind) (entries : Entries) : Option Entries :=
    match Dictionary.lookup key entries with
    | none => some (Dictionary.insert key (.table .headed []) entries)
    | some (.table .implied inner) => some (Dictionary.insert key (.table .headed inner) entries)
    | some _ => none
  follow false path add .headed entries

/-- Opens a further table of the array of a header. -/
def openItem (path : List String) (key : String) (entries : Entries) : Option Entries :=
  let add (_ : TableKind) (entries : Entries) : Option Entries :=
    match Dictionary.lookup key entries with
    | none => some (Dictionary.insert key (.tables [[]]) entries)
    | some (.tables items) => some (Dictionary.insert key (.tables ([] :: items)) entries)
    | some _ => none
  follow false path add .headed entries

end Toml

end SurfaceBridge
