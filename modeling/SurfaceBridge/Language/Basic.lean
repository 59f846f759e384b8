set_option autoImplicit false

/-! # Languages

What the editor knows about a language: its id, its comment tokens and the names shown for it.
-/

namespace SurfaceBridge

/-- The tokens of comments: the one that starts a comment of one line, and the two around a
block. -/
structure CommentSyntax where
  line : Option String
  blockStart : Option String
  blockEnd : Option String
deriving DecidableEq

namespace CommentSyntax

/-- No comments at all. -/
def none : CommentSyntax := ⟨.none, .none, .none⟩

/-- Comments of one line only. -/
def ofLine (token : String) : CommentSyntax := ⟨some token, .none, .none⟩

/-- Block comments only. -/
def ofBlock (start stop : String) : CommentSyntax := ⟨.none, some start, some stop⟩

/-- Comments of both kinds. -/
def ofBoth (token start stop : String) : CommentSyntax := ⟨some token, some start, some stop⟩

/-- Replaces the token of line comments; the tokens of blocks stay. -/
def withLine (token : String) (c : CommentSyntax) : CommentSyntax := { c with line := some token }

/-- Whether a token is there and not empty. -/
def isUsable (token : Option String) : Bool :=
  match token with
  | .none => false
  | some t => !t.isEmpty

/-- Whether there are line comments. -/
def hasLine (c : CommentSyntax) : Bool := isUsable c.line

/-- Whether there are block comments, for which both tokens are needed. -/
def hasBlock (c : CommentSyntax) : Bool := isUsable c.blockStart && isUsable c.blockEnd

end CommentSyntax

/-- A language. -/
structure Language where
  id : String
  comments : CommentSyntax
  aliases : List String
deriving DecidableEq

namespace Language

/-- The id of the language in which code is written. -/
def codeId : String := "ov"

/-- The id of the language in which schemas are written. -/
def schemaId : String := "yaml"

/-- The language of code, as it is known at first. -/
def code : Language := ⟨codeId, .ofBoth "//" "/*" "*/", ["OV"]⟩

/-- The language of schemas, as it is known at first. -/
def schema : Language := ⟨schemaId, .ofLine "#", ["YAML"]⟩

/-- Replaces the token of line comments. -/
def withLineComment (token : String) (l : Language) : Language :=
  { l with comments := l.comments.withLine token }

end Language

end SurfaceBridge
