set_option autoImplicit false

/-! # Patterns as they are written

The tree of a regular expression keeps what was written: flags, names of classes and the nesting
of brackets. What it matches is settled by `Pattern/Expr`.
-/

namespace SurfaceBridge

namespace Pattern

/-- The letters that switch modes. -/
inductive Flag where
  | ignoreCase
  | multiLine
  | dotMatchesNewline
  | swapGreed
  | unicode
  | crlf
  | extended
deriving DecidableEq

/-- Flags as written: each with whether it is switched on. -/
abbrev Flags := List (Flag × Bool)

/-- Conditions on a position. -/
inductive Assertion where
  | lineStart
  | lineEnd
  | textStart
  | textEnd
  | wordBoundary
  | notWordBoundary
  | wordStart
  | wordEnd
  | wordStartHalf
  | wordEndHalf

/-- The three classes with a one-letter escape. -/
inductive ShortClass where
  | digit
  | space
  | word

/-- What is asked for by a class with a name. -/
inductive ClassQuery where
  | name (name : String)
  | property (name value : String)

/-- The operators between the sets in a bracket. -/
inductive SetOperator where
  | intersection
  | difference
  | symmetricDifference

/-- A character as written; `byte` says that it was given by two hexadecimal digits, which may
stand for a byte. -/
structure Written where
  char : Char
  byte : Bool

/-- A set of characters as written in a bracket. -/
inductive SetTree where
  | empty
  | literal (c : Written)
  | range (first last : Written)
  | ascii (negated : Bool) (ranges : List (Nat × Nat))
  | short (negated : Bool) (kind : ShortClass)
  | named (negated : Bool) (query : ClassQuery)
  | bracket (negated : Bool) (set : SetTree)
  | union (items : List SetTree)
  | operation (operator : SetOperator) (left right : SetTree)

/-- The kinds of groups. -/
inductive GroupKind where
  | capture (index : Nat)
  | plain (flags : Flags)

/-- A pattern as written. -/
inductive Tree where
  | empty
  | flags (flags : Flags)
  | literal (c : Written)
  | dot
  | assertion (kind : Assertion)
  | short (negated : Bool) (kind : ShortClass)
  | named (negated : Bool) (query : ClassQuery)
  | bracket (negated : Bool) (set : SetTree)
  | repetition (tree : Tree) (least : Nat) (most : Option Nat) (greedy : Bool)
  | group (kind : GroupKind) (tree : Tree)
  | sequence (trees : List Tree)
  | choice (trees : List Tree)

mutual

/-- How deep sets are nested in one another. -/
def SetTree.depth : SetTree → Nat
  | .bracket _ set => set.depth + 1
  | .union items => SetTree.depthAll items + 1
  | .operation _ left right => max left.depth right.depth + 1
  | _ => 0

/-- The greatest depth of some sets. -/
def SetTree.depthAll : List SetTree → Nat
  | [] => 0
  | t :: ts => max t.depth (SetTree.depthAll ts)

end

mutual

/-- How deep patterns are nested in one another. -/
def Tree.depth : Tree → Nat
  | .bracket _ set => set.depth + 1
  | .repetition tree _ _ _ => tree.depth + 1
  | .group _ tree => tree.depth + 1
  | .sequence trees => Tree.depthAll trees + 1
  | .choice trees => Tree.depthAll trees + 1
  | _ => 0

/-- The greatest depth of some patterns. -/
def Tree.depthAll : List Tree → Nat
  | [] => 0
  | t :: ts => max t.depth (Tree.depthAll ts)

end

end Pattern

end SurfaceBridge
