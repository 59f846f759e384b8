import SurfaceBridge.Dictionary
import SurfaceBridge.Language.Basic

set_option autoImplicit false

/-! # The registry of languages

Languages are kept by their ids, each once, in the order of the ids.
-/

namespace SurfaceBridge

/-- The languages that are known, by id. -/
structure LanguageRegistry where
  languages : List (String × Language)
deriving DecidableEq

namespace LanguageRegistry

/-- No languages. -/
def empty : LanguageRegistry := ⟨[]⟩

/-- Adds a language, in place of any with the same id. -/
def register (l : Language) (r : LanguageRegistry) : LanguageRegistry :=
  ⟨Dictionary.insert l.id l r.languages⟩

/-- The languages that are known from the start. -/
def initial : LanguageRegistry := (empty.register .code).register .schema

/-- The language with an id. -/
def get? (r : LanguageRegistry) (id : String) : Option Language :=
  Dictionary.lookup id r.languages

/-- Whether a language is known. -/
def contains (r : LanguageRegistry) (id : String) : Bool := (r.get? id).isSome

/-- The ids of all languages in order. -/
def ids (r : LanguageRegistry) : List String := Dictionary.keys r.languages

/-- Changes the language with an id; nothing happens if it is not known. -/
def edit (id : String) (f : Language → Language) (r : LanguageRegistry) : LanguageRegistry :=
  ⟨Dictionary.modify id f r.languages⟩

/-- Replaces the token of line comments of a language, and says whether the language is known. -/
def setLineComment (id token : String) (r : LanguageRegistry) : Bool × LanguageRegistry :=
  (r.contains id, r.edit id (.withLineComment token))

end LanguageRegistry

end SurfaceBridge
