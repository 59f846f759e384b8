import SurfaceBridge.Pattern.Tree
import SurfaceBridge.Unicode.Category
import SurfaceBridge.Unicode.Property
import SurfaceBridge.Text.Blank

set_option autoImplicit false

/-! # Reading patterns

Reads the text of a regular expression into a `Tree`. There are no back references and no
looking around. In the extended mode blanks and comments are passed over wherever a part of the
pattern could start.

A reader that fails gives nothing: a pattern is either good or not.
-/

namespace SurfaceBridge

namespace Pattern

/-- What is left of the pattern, whether the extended mode is on, and the groups that have been
numbered and named. -/
structure Cursor where
  rest : List Char
  extended : Bool
  groups : Nat
  names : List String

/-- A text behind the end of the line. -/
def dropLine : List Char → List Char
  | [] => []
  | c :: cs => if c = '\n' then cs else dropLine cs

/-- A text behind its blanks and comments. The bound is the length of the text. -/
def dropComments : Nat → List Char → List Char
  | 0, s => s
  | fuel + 1, s =>
    match s with
    | [] => []
    | c :: cs =>
      if Text.isBlank c then dropComments fuel cs
      else if c = '#' then dropComments fuel (dropLine cs)
      else c :: cs

namespace Cursor

/-- Passes over blanks and comments in the extended mode. -/
def settle (s : Cursor) : Cursor :=
  if s.extended then { s with rest := dropComments s.rest.length s.rest } else s

/-- Moves to another place in the pattern. -/
def goto (s : Cursor) (rest : List Char) : Cursor := { s with rest := rest }

/-- Moves to another place and passes over what the extended mode ignores. -/
def land (s : Cursor) (rest : List Char) : Cursor := (s.goto rest).settle

/-- Passes over one character. -/
def bump (s : Cursor) : Cursor := s.goto s.rest.tail

/-- Passes over one character and what the extended mode ignores. -/
def advance (s : Cursor) : Cursor := s.land s.rest.tail

end Cursor

/-- Characters that have a meaning in patterns or in brackets. -/
def isMeta (c : Char) : Bool :=
  ['\\', '.', '+', '*', '?', '(', ')', '|', '[', ']', '{', '}', '^', '$', '#', '&', '-',
    '~'].contains c

/-- Characters that may follow a backslash to stand for themselves. -/
def isEscapable (c : Char) : Bool :=
  isMeta c || (c.toNat < 0x80 && !c.isAlphanum && c ≠ '<' && c ≠ '>')

/-- The value of a hexadecimal digit. -/
def hexDigit? (c : Char) : Option Nat :=
  if '0' ≤ c ∧ c ≤ '9' then some (c.toNat - 48)
  else if 'a' ≤ c ∧ c ≤ 'f' then some (c.toNat - 87)
  else if 'A' ≤ c ∧ c ≤ 'F' then some (c.toNat - 55)
  else none

/-- The character with a code point, if there is one. -/
def charOfPoint? (n : Nat) : Option Char :=
  if n.isValidChar then some (Char.ofNat n) else none

/-- Reads a fixed number of hexadecimal digits. -/
def readHexDigits : Nat → Nat → Cursor → Option (Nat × Cursor)
  | 0, value, s => some (value, s)
  | count + 1, value, s =>
    match s.rest with
    | [] => none
    | c :: _ =>
      match hexDigit? c with
      | none => none
      | some d => readHexDigits count (16 * value + d) s.advance

/-- Reads hexadecimal digits up to a closing brace. -/
def readHexBrace : Nat → Nat → Bool → Cursor → Option (Nat × Cursor)
  | 0, _, _, _ => none
  | fuel + 1, value, started, s =>
    match s.rest with
    | [] => none
    | '}' :: _ => if started then some (value, s.advance) else none
    | c :: _ =>
      match hexDigit? c with
      | none => none
      | some d => readHexBrace fuel (16 * value + d) true s.advance

/-- Reads a character given by its code point; the cursor is at the letter. -/
def readCodePoint (letter : Char) (s : Cursor) : Option (Written × Cursor) :=
  let s := s.advance
  match s.rest with
  | [] => none
  | '{' :: _ => do
    let (n, s) ← readHexBrace (s.rest.length + 1) 0 false s.advance
    let c ← charOfPoint? n
    return (⟨c, false⟩, s)
  | _ => do
    let count := if letter = 'x' then 2 else if letter = 'u' then 4 else 8
    let (n, s) ← readHexDigits count 0 s
    let c ← charOfPoint? n
    return (⟨c, letter = 'x'⟩, s)

/-- Reads the characters up to a closing brace. -/
def readBraced : Nat → List Char → Cursor → Option (List Char × Cursor)
  | 0, _, _ => none
  | fuel + 1, acc, s =>
    match s.rest with
    | [] => none
    | '}' :: _ => some (acc.reverse, s.bump)
    | c :: _ => readBraced fuel (c :: acc) s.advance

/-- Splits a text at the first place where another text occurs in it. -/
def splitAt? (mark : List Char) : List Char → Option (List Char × List Char)
  | [] => if mark.isEmpty then some ([], []) else none
  | c :: cs =>
    if mark.isPrefixOf (c :: cs) then some ([], (c :: cs).drop mark.length)
    else (splitAt? mark cs).map fun (a, b) => (c :: a, b)

/-- What a class is asked for by the text between its braces, and whether it is the opposite. -/
def queryOf (name : List Char) : Bool × ClassQuery :=
  match splitAt? ['!', '='] name with
  | some (a, b) => (true, .property (String.ofList a) (String.ofList b))
  | none =>
    match splitAt? [':'] name with
    | some (a, b) => (false, .property (String.ofList a) (String.ofList b))
    | none =>
      match splitAt? ['='] name with
      | some (a, b) => (false, .property (String.ofList a) (String.ofList b))
      | none => (false, .name (String.ofList name))

/-- Reads a class with a name; the cursor is at the letter. -/
def readNamedClass (negated : Bool) (s : Cursor) : Option (Bool × ClassQuery × Cursor) :=
  let s := s.advance
  match s.rest with
  | [] => none
  | '{' :: _ => do
    let (name, s) ← readBraced (s.rest.length + 1) [] s.advance
    let (opposite, query) := queryOf name
    return (negated != opposite, query, s)
  | c :: _ => if c = '\\' then none else some (negated, .name (String.singleton c), s.advance)

/-- Whether a character can be part of the name of a word boundary. -/
def isBoundaryChar (c : Char) : Bool := c.isAlpha || c = '-'

/-- Reads the characters of the name of a word boundary. -/
def readBoundaryName : Nat → List Char → Cursor → List Char × Cursor
  | 0, acc, s => (acc.reverse, s)
  | fuel + 1, acc, s =>
    match s.rest with
    | c :: _ =>
      if isBoundaryChar c then readBoundaryName fuel (c :: acc) s.advance else (acc.reverse, s)
    | [] => (acc.reverse, s)

/-- Reads what may follow the escape of a word boundary: a name between braces. A brace that is
followed by no name is left to be read as a count. -/
def readBoundary (s : Cursor) : Option (Assertion × Cursor) :=
  match s.rest with
  | '{' :: _ =>
    let inside := s.advance
    match inside.rest with
    | [] => none
    | c :: _ =>
      if isBoundaryChar c then
        let (name, after) := readBoundaryName (inside.rest.length + 1) [] inside
        match after.rest with
        | '}' :: _ =>
          match String.ofList name with
          | "start" => some (.wordStart, after.bump)
          | "end" => some (.wordEnd, after.bump)
          | "start-half" => some (.wordStartHalf, after.bump)
          | "end-half" => some (.wordEndHalf, after.bump)
          | _ => none
        | _ => none
      else some (.wordBoundary, s)
  | _ => some (.wordBoundary, s)

/-- Reads an escape; the cursor is at the backslash. -/
def readEscape (s : Cursor) : Option (Tree × Cursor) :=
  let s := s.bump
  match s.rest with
  | [] => none
  | c :: _ =>
    if c.isDigit then none
    else if c = 'x' ∨ c = 'u' ∨ c = 'U' then
      (readCodePoint c s).map fun (w, s) => (.literal w, s)
    else if c = 'p' ∨ c = 'P' then
      (readNamedClass (c = 'P') s).map fun (negated, query, s) => (.named negated query, s)
    else
      let after := s.bump
      let plain (d : Char) : Option (Tree × Cursor) := some (.literal ⟨d, false⟩, after)
      if isEscapable c then plain c
      else
        match c with
        | 'd' => some (.short false .digit, after)
        | 'D' => some (.short true .digit, after)
        | 's' => some (.short false .space, after)
        | 'S' => some (.short true .space, after)
        | 'w' => some (.short false .word, after)
        | 'W' => some (.short true .word, after)
        | 'a' => plain '\x07'
        | 'f' => plain '\x0c'
        | 't' => plain '\t'
        | 'n' => plain '\n'
        | 'r' => plain '\r'
        | 'v' => plain '\x0b'
        | 'A' => some (.assertion .textStart, after)
        | 'z' => some (.assertion .textEnd, after)
        | 'b' => (readBoundary after).map fun (kind, s) => (.assertion kind, s)
        | 'B' => some (.assertion .notWordBoundary, after)
        | '<' => some (.assertion .wordStart, after)
        | '>' => some (.assertion .wordEnd, after)
        | _ => none

/-! ## Brackets -/

/-- The ranges of an ASCII class. -/
def asciiRanges : String → Option (List (Nat × Nat))
  | "alnum" => some [(48, 57), (65, 90), (97, 122)]
  | "alpha" => some [(65, 90), (97, 122)]
  | "ascii" => some [(0, 127)]
  | "blank" => some [(9, 9), (32, 32)]
  | "cntrl" => some [(0, 31), (127, 127)]
  | "digit" => some [(48, 57)]
  | "graph" => some [(33, 126)]
  | "lower" => some [(97, 122)]
  | "print" => some [(32, 126)]
  | "punct" => some [(33, 47), (58, 64), (91, 96), (123, 126)]
  | "space" => some [(9, 13), (32, 32)]
  | "upper" => some [(65, 90)]
  | "word" => some [(48, 57), (65, 90), (95, 95), (97, 122)]
  | "xdigit" => some [(48, 57), (65, 70), (97, 102)]
  | _ => none

/-- Reads an ASCII class, if there is one at the cursor; anything else that starts with a bracket
is an ordinary set. -/
def readAsciiClass (s : Cursor) : Option (SetTree × Cursor) :=
  match s.rest with
  | '[' :: ':' :: rest =>
    let (negated, rest) := match rest with
      | '^' :: more => (true, more)
      | more => (false, more)
    let name := rest.takeWhile (· ≠ ':')
    match rest.drop name.length with
    | ':' :: ']' :: after =>
      (asciiRanges (String.ofList name)).map fun ranges => (.ascii negated ranges, s.goto after)
    | _ => none
  | _ => none

/-- Reads hyphens at the start of a bracket. -/
def readHyphens : Nat → List SetTree → Cursor → List SetTree × Cursor
  | 0, items, s => (items, s)
  | fuel + 1, items, s =>
    match s.rest with
    | '-' :: _ => readHyphens fuel (.literal ⟨'-', false⟩ :: items) s.advance
    | _ => (items, s)

/-- Reads the opening of a bracket: whether it is negated, and the hyphens or the closing bracket
that stand for themselves there. The items are in reverse order. -/
def openBracket (s : Cursor) : Option (Bool × List SetTree × Cursor) :=
  let s := s.advance
  match s.rest with
  | [] => none
  | c :: _ =>
    let negated := c = '^'
    let s := if negated then s.advance else s
    let (items, s) := readHyphens (s.rest.length + 1) [] s
    match s.rest with
    | [] => none
    | c :: _ =>
      if items.isEmpty ∧ c = ']' then
        let s := s.advance
        if s.rest.isEmpty then none else some (negated, [.literal ⟨']', false⟩], s)
      else some (negated, items, s)

/-- What follows the character at the cursor, when blanks are ignored; a comment is passed over
only up to its next character. -/
def peekBeyond (s : Cursor) : Option Char :=
  let next := s.rest.tail
  if s.extended then
    match next.dropWhile Text.isBlank with
    | [] => next.head?
    | '#' :: more =>
      match more.dropWhile Text.isBlank with
      | [] => next.head?
      | c :: _ => some c
    | c :: _ => some c
  else next.head?

/-- One member of a set, before it is known whether it starts a range. -/
def readSetMember (s : Cursor) : Option (Tree × Cursor) :=
  match s.rest with
  | [] => none
  | '\\' :: _ => readEscape s
  | c :: _ => some (.literal ⟨c, false⟩, s.bump)

/-- A member of a set that is not part of a range. -/
def setMember? : Tree → Option SetTree
  | .literal w => some (.literal w)
  | .short negated kind => some (.short negated kind)
  | .named negated query => some (.named negated query)
  | _ => none

/-- Reads a member of a set or a range. -/
def readSetItem (s : Cursor) : Option (SetTree × Cursor) := do
  let (first, s) ← readSetMember s
  let s := s.settle
  match s.rest with
  | [] => none
  | c :: _ =>
    if c ≠ '-' ∨ peekBeyond s = some ']' ∨ peekBeyond s = some '-' then
      let item ← setMember? first
      return (item, s)
    else
      let s := s.advance
      let (last, s) ← readSetMember s
      match first, last with
      | .literal a, .literal b =>
        if a.char ≤ b.char then return (.range a b, s) else none
      | _, _ => none

/-- The set of some items in reverse order. -/
def unionOf : List SetTree → SetTree
  | [] => .empty
  | [item] => item
  | items => .union items.reverse

/-- A set joined to what stands before it in the bracket. -/
def joinLeft (left : Option (SetOperator × SetTree)) (right : SetTree) : SetTree :=
  match left with
  | none => right
  | some (operator, left) => .operation operator left right

/-- Reads what is between brackets, up to and including the closing one. -/
def readSet : Nat → Option (SetOperator × SetTree) → List SetTree → Cursor →
    Option (SetTree × Cursor)
  | 0, _, _, _ => none
  | fuel + 1, left, items, s =>
    let s := s.settle
    match s.rest with
    | [] => none
    | '[' :: _ =>
      match readAsciiClass s with
      | some (item, s) => readSet fuel left (item :: items) s
      | none =>
        match openBracket s with
        | none => none
        | some (negated, inner, s) =>
          match readSet fuel none inner s with
          | none => none
          | some (set, s) => readSet fuel left (.bracket negated set :: items) s
    | ']' :: rest => some (joinLeft left (unionOf items), s.goto rest)
    | '&' :: '&' :: rest =>
      readSet fuel (some (.intersection, joinLeft left (unionOf items))) [] (s.goto rest)
    | '-' :: '-' :: rest =>
      readSet fuel (some (.difference, joinLeft left (unionOf items))) [] (s.goto rest)
    | '~' :: '~' :: rest =>
      readSet fuel (some (.symmetricDifference, joinLeft left (unionOf items))) [] (s.goto rest)
    | _ =>
      match readSetItem s with
      | none => none
      | some (item, s) => readSet fuel left (item :: items) s

/-- Reads a bracket. -/
def readBracket (s : Cursor) : Option (Tree × Cursor) := do
  let (negated, items, s) ← openBracket s
  let (set, s) ← readSet (s.rest.length + 1) none items s
  return (.bracket negated set, s)

/-! ## Repetitions -/

/-- The greatest count. -/
def countLimit : Nat := 4294967295

/-- Reads the digits of a count. -/
def readCountDigits : Nat → Nat → Nat → Cursor → Nat × Nat × Cursor
  | 0, value, digits, s => (value, digits, s)
  | fuel + 1, value, digits, s =>
    match s.rest with
    | c :: _ =>
      if c.isDigit then
        readCountDigits fuel (10 * value + (c.toNat - 48)) (digits + 1) s.advance
      else (value, digits, s)
    | [] => (value, digits, s)

/-- Reads a count with blanks around it; nothing if there are no digits. -/
def readCount (s : Cursor) : Option Nat × Cursor :=
  let s := s.goto (s.rest.dropWhile Text.isBlank)
  let (value, digits, s) := readCountDigits (s.rest.length + 1) 0 0 s
  let s := s.land (s.rest.dropWhile Text.isBlank)
  (if digits = 0 ∨ countLimit < value then none else some value, s)

/-- Reads the counts of a repetition, up to its closing brace. -/
def readCounts (s : Cursor) : Option (Nat × Option Nat × Cursor) :=
  let s := s.advance
  match s.rest with
  | [] => none
  | _ => do
    let (low, s) := readCount s
    match s.rest with
    | ',' :: _ =>
      let s := s.advance
      match s.rest with
      | [] => none
      | '}' :: _ =>
        let low ← low
        return (low, none, s)
      | _ =>
        let low ← low
        let (high, s) := readCount s
        let high ← high
        if low ≤ high then return (low, some high, s) else none
    | _ =>
      let low ← low
      return (low, some low, s)

/-- Whether a tree can be repeated. -/
def isRepeatable : Tree → Bool
  | .flags _ => false
  | .empty => false
  | _ => true

/-- Reads the mark of a repetition that takes as little as possible. -/
def readLazy (s : Cursor) : Bool × Cursor :=
  match s.rest with
  | '?' :: rest => (false, s.goto rest)
  | _ => (true, s)

/-! ## Groups -/

/-- A letter as the flag it switches. -/
def flagOf : Char → Option Flag
  | 'i' => some .ignoreCase
  | 'm' => some .multiLine
  | 's' => some .dotMatchesNewline
  | 'U' => some .swapGreed
  | 'u' => some .unicode
  | 'R' => some .crlf
  | 'x' => some .extended
  | _ => none

/-- Reads flags up to a colon or a closing parenthesis, which is left. A flag must not occur
twice, and neither must the hyphen, which must not come last. -/
def readFlags : List Char → Flags → Option Bool → Option (Flags × List Char)
  | [], _, _ => none
  | c :: cs, flags, hyphen =>
    if c = ':' ∨ c = ')' then
      if hyphen = some true then none else some (flags.reverse, c :: cs)
    else if c = '-' then
      if hyphen.isSome then none else readFlags cs flags (some true)
    else
      match flagOf c with
      | none => none
      | some f =>
        if flags.any fun g => g.1 = f then none
        else readFlags cs ((f, hyphen.isNone) :: flags) (hyphen.map fun _ => false)

/-- Whether a character can be part of the name of a group. -/
def isNameChar (first : Bool) (c : Char) : Bool :=
  let n := c.toNat
  let isLetter := Unicode.isAlphabetic n
  if first then c = '_' || isLetter
  else
    c = '_' || c = '.' || c = '[' || c = ']' || isLetter || Unicode.inCategory ["Nd", "Nl", "No"] n

/-- Reads the name of a group up to its closing angle. -/
def readGroupName : List Char → List Char → Option (String × List Char)
  | [], _ => none
  | c :: cs, acc =>
    if c = '>' then
      if acc.isEmpty then none else some (String.ofList acc.reverse, cs)
    else if isNameChar acc.isEmpty c then readGroupName cs (c :: acc)
    else none

/-- What opens at a parenthesis. -/
inductive Opening where
  | flags (flags : Flags)
  | group (kind : GroupKind)

/-- The state of a flag after some flags. -/
def flagState (flag : Flag) (flags : Flags) : Option Bool :=
  (flags.find? fun f => f.1 = flag).map (·.2)

/-- Opens a group with a name. -/
def openNamed (s : Cursor) (rest : List Char) : Option (Opening × Cursor) := do
  let (name, rest) ← readGroupName rest []
  if s.names.contains name then none
  else
    return (.group (.capture (s.groups + 1)),
      { s with rest := rest, groups := s.groups + 1, names := name :: s.names })

/-- Reads the opening of a group or flags that stand alone; the cursor is at the parenthesis. -/
def readOpening (s : Cursor) : Option (Opening × Cursor) :=
  let s := s.advance
  match s.rest with
  | '?' :: '=' :: _ => none
  | '?' :: '!' :: _ => none
  | '?' :: '<' :: '=' :: _ => none
  | '?' :: '<' :: '!' :: _ => none
  | '?' :: 'P' :: '<' :: rest => openNamed s rest
  | '?' :: '<' :: rest => openNamed s rest
  | '?' :: rest => do
    let (flags, rest) ← readFlags rest [] none
    match rest with
    | ')' :: rest => if flags.isEmpty then none else return (.flags flags, s.goto rest)
    | rest => return (.group (.plain flags), s.goto rest.tail)
  | _ => some (.group (.capture (s.groups + 1)), { s with groups := s.groups + 1 })

/-- The tree of some parts in reverse order. -/
def sequenceOf : List Tree → Tree
  | [] => .empty
  | [t] => t
  | ts => .sequence ts.reverse

/-- The tree of some alternatives in reverse order. -/
def choiceOf : List Tree → Tree
  | [] => .empty
  | [t] => t
  | ts => .choice ts.reverse

/-- Reads a pattern up to its end or a closing parenthesis that belongs to a group around it.
Alternatives and parts are collected in reverse order. -/
def readTree : Nat → List Tree → List Tree → Cursor → Option (Tree × Cursor)
  | 0, _, _, _ => none
  | fuel + 1, choices, parts, s =>
    let s := s.settle
    let repeated (least : Nat) (most : Option Nat) (s : Cursor) : Option (List Tree × Cursor) :=
      match parts with
      | [] => none
      | t :: ts =>
        if isRepeatable t then
          let (greedy, s) := readLazy s
          some (.repetition t least most greedy :: ts, s)
        else none
    match s.rest with
    | [] => some (choiceOf (sequenceOf parts :: choices), s)
    | c :: rest =>
      if c = ')' then some (choiceOf (sequenceOf parts :: choices), s)
      else if c = '|' then readTree fuel (sequenceOf parts :: choices) [] (s.goto rest)
      else if c = '(' then
        match readOpening s with
        | none => none
        | some (.flags flags, after) =>
          let extended := (flagState .extended flags).getD s.extended
          readTree fuel choices (.flags flags :: parts) { after with extended := extended }
        | some (.group kind, after) =>
          let extended := match kind with
            | .plain flags => (flagState .extended flags).getD s.extended
            | .capture _ => s.extended
          match readTree fuel [] [] { after with extended := extended } with
          | none => none
          | some (body, close) =>
            match close.rest with
            | ')' :: rest =>
              readTree fuel choices (.group kind body :: parts)
                { close with rest := rest, extended := s.extended }
            | _ => none
      else if c = '[' then
        match readBracket s with
        | none => none
        | some (t, s) => readTree fuel choices (t :: parts) s
      else if c = '?' then
        match repeated 0 (some 1) s.bump with
        | none => none
        | some (parts, s) => readTree fuel choices parts s
      else if c = '*' then
        match repeated 0 none s.bump with
        | none => none
        | some (parts, s) => readTree fuel choices parts s
      else if c = '+' then
        match repeated 1 none s.bump with
        | none => none
        | some (parts, s) => readTree fuel choices parts s
      else if c = '{' then
        match readCounts s with
        | none => none
        | some (least, most, close) =>
          match close.rest with
          | '}' :: _ =>
            match repeated least most close.advance with
            | none => none
            | some (parts, s) => readTree fuel choices parts s
          | _ => none
      else if c = '\\' then
        match readEscape s with
        | none => none
        | some (t, s) => readTree fuel choices (t :: parts) s
      else if c = '.' then readTree fuel choices (.dot :: parts) (s.goto rest)
      else if c = '^' then readTree fuel choices (.assertion .lineStart :: parts) (s.goto rest)
      else if c = '$' then readTree fuel choices (.assertion .lineEnd :: parts) (s.goto rest)
      else readTree fuel choices (.literal ⟨c, false⟩ :: parts) (s.goto rest)

/-- The greatest depth to which patterns may be nested. -/
def depthLimit : Nat := 250

/-- The tree of a pattern and the number of its groups, if it is well formed. -/
def read (pattern : String) : Option (Tree × Nat) :=
  let text := pattern.toList
  match readTree (text.length + 1) [] [] ⟨text, false, 0, []⟩ with
  | none => none
  | some (tree, s) =>
    if s.rest.isEmpty ∧ tree.depth ≤ depthLimit then some (tree, s.groups) else none

end Pattern

end SurfaceBridge
