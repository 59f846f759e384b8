import SurfaceBridge.Toml.Reader

set_option autoImplicit false

/-! # Configuration files

A file is a list of lines. A line is blank or a comment, gives a value to a key, or is a header:
the entries behind it go into its table up to the next header. The header of an array of tables
opens a further table of it.
-/

namespace SurfaceBridge

namespace Toml

/-- A file as far as it is read: all entries, and the path of the last header. -/
structure Document where
  entries : Entries
  header : List String

/-- What is behind the rest of a line: blanks, a comment, and the line break or the end. -/
def endLine? (s : List Char) : Option (List Char) :=
  match skipComment (skipSpaces s) with
  | [] => some []
  | s => dropBreak? s

namespace Document

/-- Reads a header behind its first bracket. -/
def readHeader (d : Document) (s : List Char) : Option (Document × List Char) :=
  match s with
  | '[' :: rest => do
    let ((path, key), rest) ← readKey rest
    let rest ← drop? ']' rest >>= drop? ']' >>= endLine?
    let entries ← openItem path key d.entries
    return (⟨entries, path ++ [key]⟩, rest)
  | _ => do
    let ((path, key), rest) ← readKey s
    let rest ← drop? ']' rest >>= endLine?
    let entries ← openTable path key d.entries
    return (⟨entries, path ++ [key]⟩, rest)

/-- Reads a line that gives a value to a key. -/
def readEntry (d : Document) (s : List Char) : Option (Document × List Char) := do
  let ((path, key), rest) ← readKey s
  let rest ← drop? '=' rest
  let (value, rest) ← readValue depthLimit (skipSpaces rest)
  let rest ← endLine? rest
  let entries ← follow false d.header (addEntry path key value) .headed d.entries
  return (⟨entries, d.header⟩, rest)

/-- Reads the lines of a file. Every step takes a character, so the length of the text bounds the
steps. -/
def readLines : Nat → Document → List Char → Option Document
  | 0, _, _ => none
  | fuel + 1, d, s =>
    match skipSpaces s with
    | [] => some d
    | '[' :: rest => do
      let (d, rest) ← d.readHeader rest
      readLines fuel d rest
    | c :: rest =>
      if c = '#' ∨ c = '\n' ∨ c = '\r' then do
        let rest ← endLine? (c :: rest)
        readLines fuel d rest
      else do
        let (d, rest) ← d.readEntry (c :: rest)
        readLines fuel d rest

end Document

/-- The entries of a file. A byte order mark in front does not count. -/
def parse (text : String) : Option Entries :=
  let s := match text.toList with
    | '\uFEFF' :: rest => rest
    | s => s
  (Document.readLines (s.length + 1) ⟨[], []⟩ s).map (·.entries)

end Toml

end SurfaceBridge
