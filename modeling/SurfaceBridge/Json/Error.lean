import SurfaceBridge.Json.Basic
import SurfaceBridge.Json.Printer
import SurfaceBridge.Text.Quoted

set_option autoImplicit false

/-! # Why a JSON text or value is refused

Two kinds of reasons are kept apart. A `Fault` says that a text is not JSON; a `Mismatch` says
that a value is JSON, but not of the expected shape. A `ReadError` adds the place in the text at
which reading stopped.
-/

namespace SurfaceBridge

namespace Json

/-- What makes a text no JSON text. -/
inductive Fault where
  | endInList
  | endInObject
  | endInText
  | endInValue
  | colonExpected
  | commaOrListEndExpected
  | commaOrObjectEndExpected
  | identExpected
  | valueExpected
  | invalidEscape
  | invalidNumber
  | numberOutOfRange
  | controlCharacter
  | nameExpected
  | loneSurrogate
  | hexEscapeEnd
  | trailingComma
  | trailingCharacters
  | nestingTooDeep
deriving DecidableEq

/-- The sentence for a fault. -/
def Fault.message : Fault → String
  | .endInList => "EOF while parsing a list"
  | .endInObject => "EOF while parsing an object"
  | .endInText => "EOF while parsing a string"
  | .endInValue => "EOF while parsing a value"
  | .colonExpected => "expected `:`"
  | .commaOrListEndExpected => "expected `,` or `]`"
  | .commaOrObjectEndExpected => "expected `,` or `\x7d`"
  | .identExpected => "expected ident"
  | .valueExpected => "expected value"
  | .invalidEscape => "invalid escape"
  | .invalidNumber => "invalid number"
  | .numberOutOfRange => "number out of range"
  | .controlCharacter => "control character (\\u0000-\\u001F) found while parsing a string"
  | .nameExpected => "key must be a string"
  | .loneSurrogate => "lone leading surrogate in hex escape"
  | .hexEscapeEnd => "unexpected end of hex escape"
  | .trailingComma => "trailing comma"
  | .trailingCharacters => "trailing characters"
  | .nestingTooDeep => "recursion limit exceeded"

/-- The kind of value met where another was expected. -/
inductive Found where
  | null
  | boolean (value : Bool)
  | number (value : Number)
  | text (value : String)
  | list
  | object

/-- The kind of a value. -/
def kind : Json → Found
  | .null => .null
  | .boolean b => .boolean b
  | .number n => .number n
  | .text s => .text s
  | .list _ => .list
  | .object _ => .object

/-- How a kind of value is named in a sentence. -/
def Found.describe : Found → String
  | .null => "null"
  | .boolean b => "boolean `" ++ (if b then "true" else "false") ++ "`"
  | .number (.integer n) => "integer `" ++ String.ofList (integerText n) ++ "`"
  | .number (.real x) => "floating point `" ++ String.ofList (realText x) ++ "`"
  | .text s => "string " ++ Text.debugQuote s
  | .list => "sequence"
  | .object => "map"

/-- What makes a value none of the expected shape. -/
inductive Mismatch where
  | wrongType (found : Found) (expected : String)
  | wrongValue (found : Found) (expected : String)
  | wrongLength (length : Nat) (expected : String)
  | missingField (name : String)
  | duplicateField (name : String)
  | unknownVariant (name : String) (variants : List String)
  | noVariant (type : String)

/-- A name between back quotes. -/
def ticked (name : String) : String := "`" ++ name ++ "`"

/-- The sentence for a mismatch. -/
def Mismatch.message : Mismatch → String
  | .wrongType found expected => "invalid type: " ++ found.describe ++ ", expected " ++ expected
  | .wrongValue found expected => "invalid value: " ++ found.describe ++ ", expected " ++ expected
  | .wrongLength n expected =>
    "invalid length " ++ String.ofList (naturalText n) ++ ", expected " ++ expected
  | .missingField name => "missing field " ++ ticked name
  | .duplicateField name => "duplicate field " ++ ticked name
  | .unknownVariant name variants =>
    "unknown variant " ++ ticked name ++ ", expected one of "
      ++ String.intercalate ", " (variants.map ticked)
  | .noVariant type => "data did not match any variant of untagged enum " ++ type

/-- A text that is no JSON text, or JSON of the wrong shape. -/
inductive Problem where
  | fault (fault : Fault)
  | mismatch (mismatch : Mismatch)

/-- The sentence for a problem. -/
def Problem.message : Problem → String
  | .fault f => f.message
  | .mismatch m => m.message

/-- A problem and the place at which reading stopped: `unread` characters were left, the first
of which had been looked at if `peeked` holds. -/
structure ReadError where
  problem : Problem
  unread : Nat
  peeked : Bool

/-- Line and column after a number of characters, both in the way editors count: lines from
one, columns in bytes. -/
def lineColumn : List Char → Nat × Nat → Nat × Nat
  | [], place => place
  | c :: cs, (line, column) =>
    if c = '\n' then lineColumn cs (line + 1, 0) else lineColumn cs (line, column + c.utf8Size)

/-- The place of an error in the text it was found in. -/
def ReadError.place (e : ReadError) (text : List Char) : Nat × Nat :=
  let before := text.take (text.length - e.unread)
  let (line, column) := lineColumn before (1, 0)
  match e.peeked, text.drop before.length with
  | true, c :: _ => if c = '\n' then (line + 1, 0) else (line, column + 1)
  | _, _ => (line, column)

/-- The sentence for an error in a text, with its place. -/
def ReadError.message (e : ReadError) (text : String) : String :=
  let (line, column) := e.place text.toList
  e.problem.message ++ " at line " ++ String.ofList (naturalText line) ++ " column "
    ++ String.ofList (naturalText column)

end Json

end SurfaceBridge
