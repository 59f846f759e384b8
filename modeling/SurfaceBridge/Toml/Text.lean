set_option autoImplicit false

/-! # Texts of configuration files

A text stands between quotes, and may have escapes, or between apostrophes, without escapes. With
three of them at each end it may have line breaks. A line break right behind the first three does
not count, and neither do a backslash at the end of a line and the blanks and line breaks behind
it. Up to two quotes may stand in front of the three at the end.
-/

namespace SurfaceBridge

namespace Toml

/-- Whether a character may stand in comments and texts as it is: a tab or no control character. -/
def isPlain (c : Char) : Bool := c = '\t' || (0x20 ≤ c.toNat && c.toNat ≠ 0x7F)

/-- Whether a character is a blank within a line. -/
def isSpace (c : Char) : Bool := c = ' ' || c = '\t'

/-- What is behind the line break at the front of a text. -/
def dropBreak? : List Char → Option (List Char)
  | '\n' :: rest => some rest
  | '\r' :: '\n' :: rest => some rest
  | _ => none

/-- What is behind the blanks and line breaks at the front of a text. -/
def skipBlankLines : List Char → List Char
  | '\r' :: '\n' :: rest => skipBlankLines rest
  | c :: rest => if isSpace c || c = '\n' then skipBlankLines rest else c :: rest
  | [] => []

/-- The value of hexadecimal digits. -/
def hexNumber? (digits : List Char) : Option Nat :=
  digits.foldl (fun (number : Option Nat) (c : Char) =>
    match number with
    | none => none
    | some n =>
      if c.isDigit then some (16 * n + (c.toNat - 48))
      else if 'a' ≤ c ∧ c ≤ 'f' then some (16 * n + (c.toNat - 87))
      else if 'A' ≤ c ∧ c ≤ 'F' then some (16 * n + (c.toNat - 55))
      else none) (some 0)

/-- The character whose code point is in the first digits of a text. -/
def readPoint (count : Nat) (s : List Char) : Option (Char × List Char) :=
  if s.length < count then none
  else
    match hexNumber? (s.take count) with
    | some n => if n.isValidChar then some (Char.ofNat n, s.drop count) else none
    | none => none

/-- The character of an escape behind its backslash. -/
def readEscape : List Char → Option (Char × List Char)
  | 'b' :: rest => some ('\x08', rest)
  | 't' :: rest => some ('\t', rest)
  | 'n' :: rest => some ('\n', rest)
  | 'f' :: rest => some ('\x0c', rest)
  | 'r' :: rest => some ('\r', rest)
  | '"' :: rest => some ('"', rest)
  | '\\' :: rest => some ('\\', rest)
  | 'u' :: rest => readPoint 4 rest
  | 'U' :: rest => readPoint 8 rest
  | _ => none

/-- Reads a text in one line behind its first mark. The characters read come in reverse. Every
step takes a character, so the length of the text bounds the steps. -/
def readLine (mark : Char) : Nat → List Char → List Char → Option (String × List Char)
  | 0, _, _ => none
  | _ + 1, _, [] => none
  | fuel + 1, done, c :: rest =>
    if c = mark then some (String.ofList done.reverse, rest)
    else if c = '\\' ∧ mark = '"' then
      match readEscape rest with
      | none => none
      | some (d, rest) => readLine mark fuel (d :: done) rest
    else if isPlain c then readLine mark fuel (c :: done) rest
    else none

/-- What is behind a backslash at the end of a line and the blank lines behind it. -/
def joinLines? (s : List Char) : Option (List Char) :=
  (dropBreak? (s.dropWhile isSpace)).map skipBlankLines

/-- Reads a text in several lines behind its first three marks. -/
def readLines (mark : Char) : Nat → List Char → List Char → Option (String × List Char)
  | 0, _, _ => none
  | _ + 1, _, [] => none
  | fuel + 1, done, c :: rest =>
    if c = mark then
      let marks := ((c :: rest).takeWhile (· = mark)).length
      if marks < 3 then readLines mark fuel (c :: done) rest
      else
        let kept := min (marks - 3) 2
        some (String.ofList ((List.replicate kept mark ++ done).reverse),
          (c :: rest).drop (kept + 3))
    else if c = '\\' ∧ mark = '"' then
      match joinLines? rest with
      | some rest => readLines mark fuel done rest
      | none =>
        match readEscape rest with
        | none => none
        | some (d, rest) => readLines mark fuel (d :: done) rest
    else
      match dropBreak? (c :: rest) with
      | some rest => readLines mark fuel ('\n' :: done) rest
      | none => if isPlain c then readLines mark fuel (c :: done) rest else none

/-- Reads a text that begins with a mark. -/
def readText (mark : Char) (s : List Char) : Option (String × List Char) :=
  match s with
  | a :: b :: c :: rest =>
    if a = mark ∧ b = mark ∧ c = mark then
      let rest := (dropBreak? rest).getD rest
      readLines mark (rest.length + 1) [] rest
    else if a = mark then readLine mark s.length [] (b :: c :: rest)
    else none
  | a :: rest => if a = mark then readLine mark s.length [] rest else none
  | [] => none

end Toml

end SurfaceBridge
