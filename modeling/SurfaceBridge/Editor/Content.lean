import SurfaceBridge.Counter
import SurfaceBridge.Text.Quoted

set_option autoImplicit false

/-! # The content store

Four values are kept for everyone to read. The last write of a key wins. Each write raises the
revision and calls all subscribers, also when the value stays the same; a removal does neither.
-/

namespace SurfaceBridge

/-- The keys of the content store. -/
inductive ContentKey where
  | schema
  | code
  | culture
  | language
deriving DecidableEq

namespace ContentKey

/-- All keys in order. -/
def all : List ContentKey := [.schema, .code, .culture, .language]

/-- The name of a key. -/
def name : ContentKey → String
  | .schema => "Schema"
  | .code => "Code"
  | .culture => "Culture"
  | .language => "Language"

/-- The key with a name. -/
def ofName? (s : String) : Option ContentKey := all.find? fun k => k.name = s

end ContentKey

/-- The values of the content store. -/
structure ContentValues where
  schema : Option String
  code : Option String
  culture : Option String
  language : Option String
deriving DecidableEq

namespace ContentValues

/-- No values. -/
def empty : ContentValues := ⟨none, none, none, none⟩

/-- The value of a key. -/
def get? (v : ContentValues) : ContentKey → Option String
  | .schema => v.schema
  | .code => v.code
  | .culture => v.culture
  | .language => v.language

/-- Replaces the value of a key. -/
def put (v : ContentValues) (k : ContentKey) (s : Option String) : ContentValues :=
  match k with
  | .schema => { v with schema := s }
  | .code => { v with code := s }
  | .culture => { v with culture := s }
  | .language => { v with language := s }

/-- The keys that have values, with these, in the order of the keys. -/
def toList (v : ContentValues) : List (ContentKey × String) :=
  ContentKey.all.filterMap fun k => (v.get? k).map fun s => (k, s)

theorem get?_put (v : ContentValues) (k l : ContentKey) (s : Option String) :
    (v.put k s).get? l = if l = k then s else v.get? l := by
  cases k <;> cases l <;> rfl

end ContentValues

/-- A call of a subscriber after a write. -/
structure ContentCall where
  subscriber : String
  key : ContentKey
  value : String
deriving DecidableEq

/-- The content store: its values, the number of writes, its subscribers in the order in which
they came, and the calls they have got, the oldest first. -/
structure ContentStore where
  values : ContentValues
  revision : Nat
  subscribers : List String
  calls : List ContentCall
deriving DecidableEq

namespace ContentStore

/-- A store with certain values, to which nothing has been written and nobody has subscribed. -/
def ofValues (v : ContentValues) : ContentStore := ⟨v, 0, [], []⟩

/-- A store without values. -/
def empty : ContentStore := ofValues .empty

/-- The value of a key. -/
def get? (c : ContentStore) (k : ContentKey) : Option String := c.values.get? k

/-- Writes a value and calls the subscribers. -/
def set (k : ContentKey) (value : String) (c : ContentStore) : ContentStore :=
  { c with
    values := c.values.put k (some value)
    revision := Counter.next Counter.limit64 c.revision
    calls := c.calls ++ c.subscribers.map fun s => ⟨s, k, value⟩ }

/-- Removes a value. -/
def remove (k : ContentKey) (c : ContentStore) : Option String × ContentStore :=
  (c.get? k, { c with values := c.values.put k none })

/-- Adds a subscriber. -/
def subscribe (name : String) (c : ContentStore) : ContentStore :=
  { c with subscribers := c.subscribers ++ [name] }

/-- A description of the store for people. -/
def describe (c : ContentStore) : String :=
  let entries := c.values.toList.map fun (k, s) => k.name ++ ": " ++ Text.debugQuote s
  "ContentManager \x7b values: \x7b" ++ String.intercalate ", " entries ++ "\x7d, revision: "
    ++ toString c.revision ++ ", subscriber_count: " ++ toString c.subscribers.length ++ " \x7d"

end ContentStore

end SurfaceBridge
