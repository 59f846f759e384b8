import SurfaceBridge.Json.Number

set_option autoImplicit false

/-! # Reading JSON texts

A reader takes a text and returns what it read from the front of it together with the text that
follows. Reading goes from left to right and reports the first problem it meets.

A value may hold lists and objects in one another up to a depth of 127. A value that is only
skipped (`skipValue`) has no such bound, and neither its numbers nor its escapes are checked
beyond their form. When a name occurs twice in an object, the last member stays.

Lists are read with a bound on the number of items; `readItems` and `readMembers` are called
with the length of the text, which is never reached, because each item takes a character.
-/

namespace SurfaceBridge

namespace Json

/-- The blanks of JSON. -/
def isSpace (c : Char) : Bool := c = ' ' || c = '\n' || c = '\t' || c = '\r'

/-- A text without the blanks at its start. -/
def skipSpace (s : List Char) : List Char := s.dropWhile isSpace

/-- The value of a hexadecimal digit. -/
def hexValue? (c : Char) : Option Nat :=
  if '0' ≤ c ∧ c ≤ '9' then some (c.toNat - 48)
  else if 'a' ≤ c ∧ c ≤ 'f' then some (c.toNat - 87)
  else if 'A' ≤ c ∧ c ≤ 'F' then some (c.toNat - 55)
  else none

/-- Reads four hexadecimal digits. -/
def readHex (s : List Char) : Reading Nat :=
  match s with
  | a :: b :: c :: d :: rest =>
    match hexValue? a, hexValue? b, hexValue? c, hexValue? d with
    | some a, some b, some c, some d => .ok (((a * 16 + b) * 16 + c) * 16 + d, rest)
    | _, _, _, _ => stop .invalidEscape rest
  | _ => stop .endInText []

/-- Reads the second half of a pair of surrogates. -/
def readLowSurrogate (high : Nat) (s : List Char) : Reading Char :=
  match s with
  | [] => stop .endInText []
  | '\\' :: [] => stop .endInText []
  | '\\' :: 'u' :: rest =>
    match readHex rest with
    | .error e => .error e
    | .ok (low, rest) =>
      if 0xDC00 ≤ low ∧ low ≤ 0xDFFF then
        .ok (Char.ofNat ((high - 0xD800) * 1024 + (low - 0xDC00) + 0x10000), rest)
      else stop .loneSurrogate rest
  | '\\' :: _ :: rest => stop .hexEscapeEnd rest
  | _ :: rest => stop .hexEscapeEnd rest

/-- Reads an escape behind its backslash. -/
def readEscape (s : List Char) : Reading Char :=
  match s with
  | [] => stop .endInText []
  | c :: rest =>
    if c = '"' ∨ c = '\\' ∨ c = '/' then .ok (c, rest)
    else if c = 'b' then .ok ('\x08', rest)
    else if c = 'f' then .ok ('\x0c', rest)
    else if c = 'n' then .ok ('\n', rest)
    else if c = 'r' then .ok ('\r', rest)
    else if c = 't' then .ok ('\t', rest)
    else if c = 'u' then
      match readHex rest with
      | .error e => .error e
      | .ok (n, rest) =>
        if 0xDC00 ≤ n ∧ n ≤ 0xDFFF then stop .loneSurrogate rest
        else if 0xD800 ≤ n ∧ n ≤ 0xDBFF then readLowSurrogate n rest
        else .ok (Char.ofNat n, rest)
    else stop .invalidEscape rest

/-- Reads the characters of a text up to its closing quote. -/
def readChars : Nat → List Char → List Char → Reading (List Char)
  | 0, _, s => stop .endInText s
  | fuel + 1, acc, s =>
    match s with
    | [] => stop .endInText []
    | c :: rest =>
      if c = '"' then .ok (acc.reverse, rest)
      else if c = '\\' then
        match readEscape rest with
        | .error e => .error e
        | .ok (d, rest) => readChars fuel (d :: acc) rest
      else if c.toNat < 0x20 then stop .controlCharacter rest
      else readChars fuel (c :: acc) rest

/-- Reads a text behind its opening quote. -/
def readText (s : List Char) : Reading String :=
  (readChars (s.length + 1) [] s).map fun (cs, rest) => (String.ofList cs, rest)

/-- Reads the rest of one of the words `true`, `false` and `null`. -/
def readWord : List Char → List Char → Except ReadError (List Char)
  | [], s => .ok s
  | _ :: _, [] => stop .endInValue []
  | w :: ws, c :: cs => if c = w then readWord ws cs else stop .identExpected cs

/-- Reads the colon between a name and its value. -/
def readColon (s : List Char) : Except ReadError (List Char) :=
  match skipSpace s with
  | ':' :: rest => .ok rest
  | [] => stopAt .endInObject []
  | rest => stopAt .colonExpected rest

/-- Looks for the next item of a list. The result says whether there is one, and the text is
left at it, or at the closing bracket. -/
def nextItem (first : Bool) (s : List Char) : Reading Bool :=
  match skipSpace s with
  | [] => stopAt .endInList []
  | c :: rest =>
    if c = ']' then .ok (false, c :: rest)
    else if first then .ok (true, c :: rest)
    else if c = ',' then
      match skipSpace rest with
      | [] => stopAt .endInValue []
      | d :: more => if d = ']' then stopAt .trailingComma (d :: more) else .ok (true, d :: more)
    else stopAt .commaOrListEndExpected (c :: rest)

/-- Reads the end of a list of which no more items are expected. -/
def readListEnd (s : List Char) : Except ReadError (List Char) :=
  match skipSpace s with
  | [] => stopAt .endInList []
  | c :: rest =>
    if c = ']' then .ok rest
    else if c = ',' then
      match skipSpace rest with
      | ']' :: more => stopAt .trailingComma (']' :: more)
      | more => stopAt .trailingCharacters more
    else stopAt .trailingCharacters (c :: rest)

/-- Looks for the next member of an object. The result says whether there is one, and the text
is left behind the opening quote of its name, or at the closing brace. -/
def nextMember (first : Bool) (s : List Char) : Reading Bool :=
  match skipSpace s with
  | [] => stopAt .endInObject []
  | c :: rest =>
    if c = '}' then .ok (false, c :: rest)
    else if c = ',' ∧ first = false then
      match skipSpace rest with
      | [] => stopAt .endInValue []
      | '"' :: more => .ok (true, more)
      | d :: more =>
        if d = '}' then stopAt .trailingComma (d :: more) else stopAt .nameExpected (d :: more)
    else if first then
      if c = '"' then .ok (true, rest) else stopAt .nameExpected (c :: rest)
    else stopAt .commaOrObjectEndExpected (c :: rest)

/-- Reads the end of an object of which no more members are expected. -/
def readObjectEnd (s : List Char) : Except ReadError (List Char) :=
  match skipSpace s with
  | [] => stopAt .endInObject []
  | c :: rest =>
    if c = '}' then .ok rest
    else if c = ',' then stopAt .trailingComma (c :: rest)
    else stopAt .trailingCharacters (c :: rest)

/-- Reads the items of a list behind its opening bracket, with a reader for one item. -/
def readItems {α : Type} (item : List Char → Reading α) :
    Nat → Bool → List α → List Char → Reading (List α)
  | 0, _, _, s => stopAt .endInList s
  | fuel + 1, first, acc, s =>
    match nextItem first s with
    | .error e => .error e
    | .ok (false, rest) => .ok (acc.reverse, rest.tail)
    | .ok (true, rest) =>
      match item rest with
      | .error e => .error e
      | .ok (a, rest) => readItems item fuel false (a :: acc) rest

/-- Reads the members of an object behind its opening brace. The member reader gets the state
so far and the text behind the opening quote of a name. -/
def readMembers {σ : Type} (member : σ → List Char → Reading σ) :
    Nat → Bool → σ → List Char → Reading σ
  | 0, _, _, s => stopAt .endInObject s
  | fuel + 1, first, state, s =>
    match nextMember first s with
    | .error e => .error e
    | .ok (false, rest) => .ok (state, rest)
    | .ok (true, rest) =>
      match member state rest with
      | .error e => .error e
      | .ok (state, rest) => readMembers member fuel false state rest

/-- The greatest depth to which lists and objects are read. -/
def depthLimit : Nat := 127

/-- Reads a member of an object behind the opening quote of its name. -/
def readMember {α : Type} (value : List Char → Reading α) (s : List Char) :
    Reading (String × α) :=
  match readText s with
  | .error e => .error e
  | .ok (name, rest) =>
    match readColon rest with
    | .error e => .error e
    | .ok rest =>
      match value rest with
      | .error e => .error e
      | .ok (v, rest) => .ok ((name, v), rest)

/-- Reads a value in which lists and objects may be nested to the given depth. `enter` says how
a member joins the members before it. -/
def readTree (enter : String → Json → List (String × Json) → List (String × Json)) :
    Nat → List Char → Reading Json
  | depth, s =>
    match skipSpace s with
    | [] => stopAt .endInValue []
    | c :: rest =>
      if c = 'n' then (readWord ['u', 'l', 'l'] rest).map fun r => (.null, r)
      else if c = 't' then (readWord ['r', 'u', 'e'] rest).map fun r => (.boolean true, r)
      else if c = 'f' then (readWord ['a', 'l', 's', 'e'] rest).map fun r => (.boolean false, r)
      else if c = '-' ∨ c.isDigit then
        (readNumber (c :: rest)).map fun (n, r) => (.number n, r)
      else if c = '"' then (readText rest).map fun (t, r) => (.text t, r)
      else if c = '[' then
        match depth with
        | 0 => stopAt .nestingTooDeep (c :: rest)
        | depth + 1 =>
          (readItems (readTree enter depth) (rest.length + 1) true [] rest).map
            fun (items, r) => (.list items, r)
      else if c = '{' then
        match depth with
        | 0 => stopAt .nestingTooDeep (c :: rest)
        | depth + 1 =>
          let member (members : List (String × Json)) (s : List Char) :=
            (readMember (readTree enter depth) s).map
              fun (m, r) => (enter m.1 m.2 members, r)
          match readMembers member (rest.length + 1) true [] rest with
          | .error e => .error e
          | .ok (members, r) => .ok (.object members, r.tail)
      else stopAt .valueExpected (c :: rest)

/-- Reads a value; of the members with one name the last stays. -/
def readValue : Nat → List Char → Reading Json := readTree Dictionary.insert

/-- Reads a value with the members of its objects as they are written, repeated names
included. Such a tree is looked through once and never kept. -/
def readWritten : Nat → List Char → Reading Json :=
  readTree fun name value members => members ++ [(name, value)]

/-- Reads past the characters of a text up to its closing quote. -/
def skipText : Nat → List Char → Except ReadError (List Char)
  | 0, s => stop .endInText s
  | fuel + 1, s =>
    match s with
    | [] => stop .endInText []
    | c :: rest =>
      if c = '"' then .ok rest
      else if c = '\\' then
        match rest with
        | [] => stop .endInText []
        | d :: more =>
          if ['"', '\\', '/', 'b', 'f', 'n', 'r', 't'].contains d then skipText fuel more
          else if d = 'u' then
            match readHex more with
            | .error e => .error e
            | .ok (_, more) => skipText fuel more
          else stop .invalidEscape more
      else if c.toNat < 0x20 then stop .controlCharacter (c :: rest)
      else skipText fuel rest

/-- Reads past a word, a number or a text. -/
def skipScalar (c : Char) (rest : List Char) : Except ReadError (List Char) :=
  if c = 'n' then readWord ['u', 'l', 'l'] rest
  else if c = 't' then readWord ['r', 'u', 'e'] rest
  else if c = 'f' then readWord ['a', 'l', 's', 'e'] rest
  else if c = '-' then skipUnsigned rest
  else if c.isDigit then skipUnsigned (c :: rest)
  else if c = '"' then skipText (rest.length + 1) rest
  else stopAt .valueExpected (c :: rest)

/-- Reads past the name of a member and its colon. -/
def skipName (s : List Char) : Except ReadError (List Char) :=
  match skipSpace s with
  | [] => stopAt .endInObject []
  | '"' :: rest =>
    match skipText (rest.length + 1) rest with
    | .error e => .error e
    | .ok rest => readColon rest
  | rest => stopAt .nameExpected rest

/-- Closes the lists and objects that end here. `stack` holds the containers that are open,
innermost first, `true` for an object; `comma` says that an item has just been read. The result
is the text and the containers open at the next item, or no container if all have ended. -/
def skipClosers : List Bool → Bool → List Char → Except ReadError (List Bool × List Char)
  | [], _, s => .ok ([], s)
  | isObject :: stack, comma, s =>
    match skipSpace s with
    | [] => stopAt (if isObject then .endInObject else .endInList) []
    | c :: rest =>
      if c = ',' ∧ comma then .ok (isObject :: stack, rest)
      else if c = (if isObject then '}' else ']') then skipClosers stack true rest
      else if comma then
        stopAt (if isObject then .commaOrObjectEndExpected else .commaOrListEndExpected) (c :: rest)
      else .ok (isObject :: stack, c :: rest)

/-- Reads past values until no container is open. -/
def skipValues : Nat → List Bool → List Char → Except ReadError (List Char)
  | 0, _, s => stopAt .endInValue s
  | fuel + 1, stack, s =>
    match skipSpace s with
    | [] => stopAt .endInValue []
    | c :: rest =>
      let opened : Except ReadError (List Bool × Bool × List Char) :=
        if c = '[' then .ok (false :: stack, false, rest)
        else if c = '{' then .ok (true :: stack, false, rest)
        else (skipScalar c rest).map fun r => (stack, true, r)
      match opened with
      | .error e => .error e
      | .ok (stack, comma, rest) =>
        match skipClosers stack comma rest with
        | .error e => .error e
        | .ok ([], rest) => .ok rest
        | .ok (isObject :: stack, rest) =>
          if isObject then
            match skipName rest with
            | .error e => .error e
            | .ok rest => skipValues fuel (isObject :: stack) rest
          else skipValues fuel (isObject :: stack) rest

/-- Reads past a value of any depth. -/
def skipValue (s : List Char) : Except ReadError (List Char) :=
  skipValues (s.length + 1) [] s

/-- What a reader reads from a whole text, with nothing but blanks after it. -/
def readAll {α : Type} (reader : List Char → Reading α) (text : String) : Except ReadError α :=
  match reader text.toList with
  | .error e => .error e
  | .ok (a, rest) =>
    match skipSpace rest with
    | [] => .ok a
    | rest => stopAt .trailingCharacters rest

/-- The value that a text writes. -/
def read (text : String) : Except ReadError Json := readAll (readValue depthLimit) text

end Json

end SurfaceBridge
