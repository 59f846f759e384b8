import SurfaceBridge.Json.Reader

set_option autoImplicit false

/-! # Decoders

A decoder turns JSON into a value of a type. It has two sides: one reads a text from left to
right and stops at the first problem of any kind, the other takes a value apart. Both accept the
same shapes. A record may be given as an object or as the list of its fields in order. The sides
differ in two points only: from a text a repeated field is a mismatch, and items beyond the
last field of a record are trailing characters instead of a wrong length.
-/

namespace SurfaceBridge

namespace Json

/-- Both sides of a decoder. The text side gets the depth to which lists and objects may be
nested. -/
structure Decoder (α : Type) where
  fromText : Nat → List Char → Reading α
  fromValue : Json → Except Mismatch α

/-- Refuses the value at the front of a text because of its kind. A scalar is read first, so a
fault in it is reported instead. -/
def refuseKind {α : Type} (expected : String) (s : List Char) : Except ReadError α :=
  match s with
  | [] => stopAt .valueExpected []
  | c :: _ =>
    if c = '[' then refuse (.wrongType .list expected) s
    else if c = '{' then refuse (.wrongType .object expected) s
    else
      match readTree (fun _ _ members => members) 0 s with
      | .error e => .error e
      | .ok (v, rest) => refuse (.wrongType v.kind expected) rest

/-- A reader that looks at the first character of a value, behind the blanks before it. -/
def atValue {α : Type} (reader : Char → List Char → Reading α) (s : List Char) : Reading α :=
  match skipSpace s with
  | [] => stopAt .endInValue []
  | c :: rest => reader c rest

/-- Ends the reading of a value that was read but is refused. -/
def settle {α : Type} (outcome : Except Mismatch α) (rest : List Char) : Reading α :=
  match outcome with
  | .error m => refuse m rest
  | .ok a => .ok (a, rest)

namespace Decoder

/-- A text. -/
def text : Decoder String where
  fromText _ := atValue fun c rest =>
    if c = '"' then readText rest else refuseKind "a string" (c :: rest)
  fromValue
    | .text s => .ok s
    | v => .error (.wrongType v.kind "a string")

/-- A truth value. -/
def boolean : Decoder Bool where
  fromText _ := atValue fun c rest =>
    if c = 't' then (readWord ['r', 'u', 'e'] rest).map fun r => (true, r)
    else if c = 'f' then (readWord ['a', 'l', 's', 'e'] rest).map fun r => (false, r)
    else refuseKind "a boolean" (c :: rest)
  fromValue
    | .boolean b => .ok b
    | v => .error (.wrongType v.kind "a boolean")

/-- A value made from a number. -/
def ofNumber {α : Type} (expected : String) (check : Number → Except Mismatch α) : Decoder α where
  fromText _ := atValue fun c rest =>
    if c = '-' ∨ c.isDigit then
      match readNumber (c :: rest) with
      | .error e => .error e
      | .ok (n, rest) => settle (check n) rest
    else refuseKind expected (c :: rest)
  fromValue
    | .number n => check n
    | v => .error (.wrongType v.kind expected)

/-- An integer from `low` to `high`. -/
def integer (expected : String) (low high : Int) : Decoder Int :=
  ofNumber expected fun
    | .integer n =>
      if low ≤ n ∧ n ≤ high then .ok n
      else .error (.wrongValue (.number (.integer n)) expected)
    | .real x => .error (.wrongType (.number (.real x)) expected)

/-- A natural number up to `high`. -/
def natural (expected : String) (high : Nat) : Decoder Nat :=
  ofNumber expected fun
    | .integer n =>
      if 0 ≤ n ∧ n ≤ (high : Int) then .ok n.toNat
      else .error (.wrongValue (.number (.integer n)) expected)
    | .real x => .error (.wrongType (.number (.real x)) expected)

/-- The double nearest to an integer of 64 bits. -/
def realOfInteger (n : Int) : Float :=
  if 0 ≤ n then (UInt64.ofNat n.toNat).toFloat else -(UInt64.ofNat n.natAbs).toFloat

/-- A double, which may be written as an integer. -/
def real : Decoder Float :=
  ofNumber "f64" fun
    | .integer n => .ok (realOfInteger n)
    | .real x => .ok x

/-- A value or `null`. -/
def optional {α : Type} (d : Decoder α) : Decoder (Option α) where
  fromText depth s :=
    match skipSpace s with
    | 'n' :: rest => (readWord ['u', 'l', 'l'] rest).map fun r => (none, r)
    | _ => (d.fromText depth s).map fun (a, r) => (some a, r)
  fromValue
    | .null => .ok none
    | v => (d.fromValue v).map some

/-- Any value. -/
def value : Decoder Json where
  fromText := readValue
  fromValue := .ok

/-- A value of any kind that is read completely before its shape is judged. -/
def judged {α : Type} (judge : Json → Except Mismatch α) : Decoder α where
  fromText depth s :=
    match readWritten depth s with
    | .error e => .error e
    | .ok (v, rest) => settle (judge v) rest
  fromValue := judge

/-- Decodes the items of a list of values one after the other. -/
def listFromValues {α : Type} (d : Decoder α) : List Json → Except Mismatch (List α)
  | [] => .ok []
  | v :: vs =>
    match d.fromValue v with
    | .error m => .error m
    | .ok a => (listFromValues d vs).map (a :: ·)

/-- A list. -/
def list {α : Type} (d : Decoder α) : Decoder (List α) where
  fromText depth := atValue fun c rest =>
    if c = '[' then
      match depth with
      | 0 => stopAt .nestingTooDeep (c :: rest)
      | depth + 1 => readItems (d.fromText depth) (rest.length + 1) true [] rest
    else refuseKind "a sequence" (c :: rest)
  fromValue
    | .list items => listFromValues d items
    | v => .error (.wrongType v.kind "a sequence")

/-- Changes what a decoder returns. -/
def map {α β : Type} (f : α → β) (d : Decoder α) : Decoder β where
  fromText depth s := (d.fromText depth s).map fun (a, r) => (f a, r)
  fromValue v := (d.fromValue v).map f

end Decoder

/-- A field of a record under construction. `isSet` says whether it has been read, and
`isOptional` whether a list of fields may end before it. -/
structure Field (σ : Type) where
  names : List String
  isOptional : Bool
  isSet : σ → Bool
  fromText : σ → Nat → List Char → Reading σ
  fromValue : σ → Json → Except Mismatch σ

/-- The name a field is known by in mismatches. -/
def Field.name {σ : Type} (f : Field σ) : String := f.names.headD ""

/-- A field whose value has a decoder and a place in the record under construction. -/
def Field.ofDecoder {σ α : Type} (names : List String) (isOptional : Bool) (d : Decoder α)
    (get : σ → Option α) (put : α → σ → σ) : Field σ where
  names := names
  isOptional := isOptional
  isSet state := (get state).isSome
  fromText state depth s := (d.fromText depth s).map fun (a, r) => (put a state, r)
  fromValue state v := (d.fromValue v).map fun a => put a state

/-- How records of a type are decoded: the name of the type, its fields in order, the empty
record, and what makes a record of the fields that were read. `acceptsMore` says whether a list
of values may go on behind the last field. -/
structure Schema (σ α : Type) where
  type : String
  fields : List (Field σ)
  start : σ
  finish : σ → Except Mismatch α
  acceptsMore : Bool := false

namespace Schema

variable {σ α : Type}

/-- What a list with too few fields should have been. -/
def expectedLength (schema : Schema σ α) : String :=
  schema.type ++ " with " ++ String.ofList (naturalText schema.fields.length)
    ++ (if schema.fields.length = 1 then " element" else " elements")

/-- Reads the fields of a record given as a list, behind the opening bracket. -/
def readFields (schema : Schema σ α) (depth : Nat) :
    List (Field σ) → Nat → Bool → σ → List Char → Reading σ
  | [], _, _, state, s => .ok (state, s)
  | f :: fs, index, first, state, s =>
    match nextItem first s with
    | .error e => .error e
    | .ok (false, rest) =>
      if f.isOptional then readFields schema depth fs (index + 1) first state rest
      else refuse (.wrongLength index schema.expectedLength) rest
    | .ok (true, rest) =>
      match f.fromText state depth rest with
      | .error e => .error e
      | .ok (state, rest) => readFields schema depth fs (index + 1) false state rest

/-- Reads a member of a record given as an object, behind the opening quote of its name. -/
def readMember (schema : Schema σ α) (depth : Nat) (state : σ) (s : List Char) : Reading σ :=
  match readText s with
  | .error e => .error e
  | .ok (name, rest) =>
    match schema.fields.find? fun f => f.names.contains name with
    | some f =>
      if f.isSet state then refuse (.duplicateField f.name) rest
      else
        match readColon rest with
        | .error e => .error e
        | .ok rest => f.fromText state depth rest
    | none =>
      match readColon rest with
      | .error e => .error e
      | .ok rest => (skipValue rest).map fun rest => (state, rest)

/-- Ends the reading of a record. -/
def settle (schema : Schema σ α) (state : σ) (rest : List Char)
    (close : List Char → Except ReadError (List Char)) : Reading α :=
  match schema.finish state with
  | .error m => refuse m ((close rest).toOption.getD rest)
  | .ok a => (close rest).map fun rest => (a, rest)

/-- Reads a record. -/
def read (schema : Schema σ α) (depth : Nat) : List Char → Reading α :=
  atValue fun c rest =>
    if c = '[' then
      match depth with
      | 0 => stopAt .nestingTooDeep (c :: rest)
      | depth + 1 =>
        match readFields schema depth schema.fields 0 true schema.start rest with
        | .error e => .error e
        | .ok (state, rest) => schema.settle state rest readListEnd
    else if c = '{' then
      match depth with
      | 0 => stopAt .nestingTooDeep (c :: rest)
      | depth + 1 =>
        match readMembers (schema.readMember depth) (rest.length + 1) true schema.start rest with
        | .error e => .error e
        | .ok (state, rest) => schema.settle state rest readObjectEnd
    else refuseKind schema.type (c :: rest)

/-- Takes the fields of a record from a list of values. -/
def takeFields (schema : Schema σ α) :
    List (Field σ) → Nat → List Json → σ → Except Mismatch σ
  | [], _, _, state => .ok state
  | f :: fs, index, [], state =>
    if f.isOptional then takeFields schema fs index [] state
    else .error (.wrongLength index schema.expectedLength)
  | f :: fs, index, v :: vs, state =>
    match f.fromValue state v with
    | .error m => .error m
    | .ok state => takeFields schema fs (index + 1) vs state

/-- Takes the fields of a record from the members of an object. -/
def takeMembers (schema : Schema σ α) : List (String × Json) → σ → Except Mismatch σ
  | [], state => .ok state
  | (name, v) :: rest, state =>
    match schema.fields.find? fun f => f.names.contains name with
    | none => takeMembers schema rest state
    | some f =>
      if f.isSet state then .error (.duplicateField f.name)
      else
        match f.fromValue state v with
        | .error m => .error m
        | .ok state => takeMembers schema rest state

/-- Takes a record from a value. The number of items is judged last. -/
def take (schema : Schema σ α) : Json → Except Mismatch α
  | .list items =>
    match schema.takeFields schema.fields 0 (items.take schema.fields.length) schema.start with
    | .error m => .error m
    | .ok state =>
      match schema.finish state with
      | .error m => .error m
      | .ok a =>
        if items.length ≤ schema.fields.length || schema.acceptsMore then .ok a
        else .error (.wrongLength items.length "fewer elements in array")
  | .object members =>
    match schema.takeMembers members schema.start with
    | .error m => .error m
    | .ok state => schema.finish state
  | v => .error (.wrongType v.kind schema.type)

/-- The decoder of a record. -/
def decoder (schema : Schema σ α) : Decoder α where
  fromText := schema.read
  fromValue := schema.take

end Schema

/-- What a decoder makes of a whole text. -/
def Decoder.decode {α : Type} (d : Decoder α) (text : String) : Except ReadError α :=
  readAll (d.fromText depthLimit) text

end Json

end SurfaceBridge
