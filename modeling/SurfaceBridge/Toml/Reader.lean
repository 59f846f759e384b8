import SurfaceBridge.Toml.Number
import SurfaceBridge.Toml.Table
import SurfaceBridge.Toml.Text

set_option autoImplicit false

/-! # Keys and values of configuration files

A key is a name or a text in one line, and a dotted key has several of them. A list may have line
breaks, comments and a comma behind its last item; a table between braces is in one line.

Lists and tables between braces may be nested up to `depthLimit`, and a dotted key may have as
many parts.
-/

namespace SurfaceBridge

namespace Toml

/-- How deep lists and tables between braces may be nested. -/
def depthLimit : Nat := 79

/-- What is behind the blanks at the front of a line. -/
def skipSpaces (s : List Char) : List Char := s.dropWhile isSpace

/-- What is behind a comment at the front of a text, if there is one. -/
def skipComment : List Char → List Char
  | '#' :: rest => rest.dropWhile isPlain
  | s => s

/-- What is behind the blanks, line breaks and comments at the front of a text. -/
def skipLines : Nat → List Char → List Char
  | 0, s => s
  | fuel + 1, s =>
    match skipComment (skipBlankLines s) with
    | '\n' :: rest => skipLines fuel rest
    | '\r' :: '\n' :: rest => skipLines fuel rest
    | s => s

/-- What is behind a mark, if it is at the front of a text. -/
def drop? (mark : Char) : List Char → Option (List Char)
  | c :: rest => if c = mark then some rest else none
  | [] => none

/-- Whether a character may stand in a name without quotes. -/
def isNameChar (c : Char) : Bool := c.isAlphanum || c = '_' || c = '-'

/-- Reads one part of a key. -/
def readName : List Char → Option (String × List Char)
  | '"' :: rest => readLine '"' (rest.length + 1) [] rest
  | '\'' :: rest => readLine '\'' (rest.length + 1) [] rest
  | s =>
    let name := s.takeWhile isNameChar
    if name.isEmpty then none else some (String.ofList name, s.drop name.length)

/-- Reads the parts of a key with dots between them and blanks around them. -/
def readNames : Nat → List Char → Option (List String × List Char)
  | 0, _ => none
  | fuel + 1, s =>
    match readName (skipSpaces s) with
    | none => none
    | some (name, rest) =>
      let rest := skipSpaces rest
      match drop? '.' rest with
      | none => some ([name], rest)
      | some behind =>
        (readNames fuel behind).map fun (names, rest) => (name :: names, rest)

/-- Reads a key: the parts that lead to its table, and its last part. -/
def readKey (s : List Char) : Option ((List String × String) × List Char) :=
  match readNames (s.length + 1) s with
  | none => none
  | some (names, rest) =>
    match names.getLast? with
    | none => none
    | some last =>
      if names.length ≤ depthLimit then some ((names.dropLast, last), rest) else none

/-- Reads the items of a list up to its closing bracket. The items read come in reverse. -/
def readItems (readItem : List Char → Option (Value × List Char)) :
    Nat → List Value → List Char → Option (Value × List Char)
  | 0, _, _ => none
  | fuel + 1, done, s =>
    let s := skipLines s.length s
    match drop? ']' s with
    | some rest => some (.list done.reverse, rest)
    | none =>
      match readItem s with
      | none => none
      | some (item, rest) =>
        let rest := skipLines rest.length rest
        match drop? ',' rest, drop? ']' rest with
        | some rest, _ => readItems readItem fuel (item :: done) rest
        | none, some rest => some (.list (item :: done).reverse, rest)
        | none, none => none

/-- Reads the entries of a table between braces up to the closing one. -/
def readEntries (readItem : List Char → Option (Value × List Char)) :
    Nat → Entries → List Char → Option (Value × List Char)
  | 0, _, _ => none
  | fuel + 1, done, s => do
    let ((path, key), rest) ← readKey s
    let rest ← drop? '=' rest
    let (value, rest) ← readItem (skipSpaces rest)
    let done ← addEntry path key value .braced done
    let rest := skipSpaces rest
    match drop? ',' rest, drop? '}' rest with
    | some rest, _ => readEntries readItem fuel done rest
    | none, some rest => some (.table .braced done, rest)
    | none, none => none

/-- Reads a table between braces, behind the opening one. -/
def readBraced (readItem : List Char → Option (Value × List Char)) (s : List Char) :
    Option (Value × List Char) :=
  match drop? '}' (skipSpaces s) with
  | some rest => some (.table .braced [], rest)
  | none => readEntries readItem (s.length + 1) [] s

/-- Reads a date or a number. -/
def readPlain (s : List Char) : Option (Value × List Char) :=
  match readDate? s with
  | some outcome => outcome.map fun rest => (.date, rest)
  | none => readNumber s

/-- Reads a value, with lists and tables between braces nested up to a depth. -/
def readValue : Nat → List Char → Option (Value × List Char)
  | depth, '[' :: rest =>
    match depth with
    | 0 => none
    | depth + 1 => readItems (readValue depth) (rest.length + 1) [] rest
  | depth, '{' :: rest =>
    match depth with
    | 0 => none
    | depth + 1 => readBraced (readValue depth) rest
  | _, '"' :: rest => (readText '"' ('"' :: rest)).map fun (s, rest) => (.text s, rest)
  | _, '\'' :: rest => (readText '\'' ('\'' :: rest)).map fun (s, rest) => (.text s, rest)
  | _, 't' :: 'r' :: 'u' :: 'e' :: rest => some (.boolean true, rest)
  | _, 'f' :: 'a' :: 'l' :: 's' :: 'e' :: rest => some (.boolean false, rest)
  | _, s => readPlain s

end Toml

end SurfaceBridge
