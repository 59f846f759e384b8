import SurfaceBridge.Editor.Content
import SurfaceBridge.Editor.StoredFile
import SurfaceBridge.Json.Decoder

set_option autoImplicit false

/-! # The file of a content store

The values are saved as a JSON object with one line for each key that has a value. A text is
accepted in return if it is an object whose names are keys and whose members are texts; the last
member of a key counts. A file that does not exist stands for a store without values.
-/

namespace SurfaceBridge

namespace ContentValues

/-- The text to which values are saved. -/
def save (v : ContentValues) : List Char :=
  let line (p : ContentKey × String) : List Char :=
    ['\n', ' ', ' '] ++ Json.quote p.1.name ++ [':', ' '] ++ Json.quote p.2
  match v.toList with
  | [] => ['{', '}']
  | entries => '{' :: ((entries.map line).intersperse [',']).flatten ++ ['\n', '}']

/-- The key that a name stands for. -/
def keyOf (name : String) : Except Json.Mismatch ContentKey :=
  match ContentKey.ofName? name with
  | some k => .ok k
  | none => .error (.unknownVariant name (ContentKey.all.map ContentKey.name))

/-- Reads a member of the object, behind the opening quote of its name. -/
def readMember (depth : Nat) (v : ContentValues) (s : List Char) : Json.Reading ContentValues :=
  match Json.readText s with
  | .error e => .error e
  | .ok (name, rest) =>
    match keyOf name with
    | .error m => Json.refuse m rest
    | .ok k =>
      match Json.readColon rest with
      | .error e => .error e
      | .ok rest =>
        (Json.Decoder.text.fromText depth rest).map fun (value, rest) =>
          (v.put k (some value), rest)

/-- Takes values from the members of an object. -/
def takeMembers : List (String × Json) → ContentValues → Except Json.Mismatch ContentValues
  | [], v => .ok v
  | (name, value) :: rest, v =>
    match keyOf name with
    | .error m => .error m
    | .ok k =>
      match Json.Decoder.text.fromValue value with
      | .error m => .error m
      | .ok s => takeMembers rest (v.put k (some s))

/-- The decoder of values. -/
def decoder : Json.Decoder ContentValues where
  fromText depth := Json.atValue fun c rest =>
    if c = '{' then
      match depth with
      | 0 => Json.stopAt .nestingTooDeep (c :: rest)
      | depth + 1 =>
        match Json.readMembers (readMember depth) (rest.length + 1) true .empty rest with
        | .error e => .error e
        | .ok (v, rest) => (Json.readObjectEnd rest).map fun rest => (v, rest)
    else Json.refuseKind "a map" (c :: rest)
  fromValue
    | .object members => takeMembers members .empty
    | v => .error (.wrongType v.kind "a map")

end ContentValues

/-- Why a content store cannot be loaded or saved. -/
inductive ContentError where
  | file (error : FileError)
  | json (error : Json.ReadError) (text : String)

/-- The sentence for a content error. -/
def ContentError.message : ContentError → String
  | .file e => "I/O error: " ++ e.message
  | .json e text => "JSON error: " ++ e.message text

/-- The sentences for a content error and what caused it. -/
def ContentError.chain (e : ContentError) : List String :=
  match e with
  | .file cause => [e.message, cause.message]
  | .json cause text => [e.message, cause.message text]

namespace ContentStore

/-- The store that was saved to a file. -/
def load (f : StoredFile) : Except ContentError ContentStore :=
  match f.readText with
  | .error .notFound => .ok empty
  | .error e => .error (.file e)
  | .ok text =>
    match ContentValues.decoder.decode text with
    | .error e => .error (.json e text)
    | .ok v => .ok (ofValues v)

end ContentStore

end SurfaceBridge
