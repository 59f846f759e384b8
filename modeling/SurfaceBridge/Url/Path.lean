import SurfaceBridge.Url.PercentEncoding

set_option autoImplicit false

/-! # Paths

A path is a list of segments, each written behind a slash. A segment of one dot is left out, and
one of two dots takes the segment before it away. A path that ends in one of these ends in an
empty segment. A URL without a host may have a text without segments for its path.
-/

namespace SurfaceBridge

namespace Url

/-- A path. -/
inductive Path where
  | plain (text : String)
  | segments (list : List String)
deriving DecidableEq

namespace Path

/-- A path as it is written in a URL. -/
def text : Path → String
  | plain s => s
  | segments list => String.join (list.map ("/" ++ ·))

/-- Whether a segment is one dot. A dot may be encoded. -/
def isDot (s : List Char) : Bool :=
  s = ['.'] || s = ['%', '2', 'e'] || s = ['%', '2', 'E']

/-- Whether a segment is two dots. -/
def isTwoDots (s : List Char) : Bool :=
  match s with
  | '.' :: rest => isDot rest
  | '%' :: '2' :: c :: rest => (c = 'e' || c = 'E') && isDot rest
  | _ => false

/-- Whether a segment is the letter of a drive: a letter and a colon or a bar. -/
def isDrive (s : List Char) : Bool :=
  match s with
  | [letter, mark] => letter.isAlpha && (mark = ':' || mark = '|')
  | _ => false

/-- The segments, the last one first, without the last one. The letter of a drive stays. -/
def shorten : List (List Char) → List (List Char)
  | [] => []
  | last :: before => if isDrive last then last :: before else before

/-- Adds a segment to the segments read, which come in reverse. -/
def push (done : List (List Char)) (s : List Char) : List (List Char) :=
  if isTwoDots s then shorten done
  else if isDot s then done
  else s :: done

/-- The segments of pieces between slashes, behind those that are done. -/
def collect (add : List (List Char) → List Char → List (List Char)) :
    List (List Char) → List (List Char) → List (List Char)
  | done, [] => done.reverse
  | done, [last] =>
    let done := add done last
    (if isTwoDots last || isDot last then [] :: done else done).reverse
  | done, s :: rest => collect add (add done s) rest

/-- The pieces of a path between its slashes. In the URLs of the known schemes a backslash is a
slash. -/
def pieces (isSpecial : Bool) (s : List Char) : List (List Char) :=
  s.splitOnP fun c => c = '/' || (isSpecial && c = '\\')

/-- The path behind its first slash. -/
def parse (isSpecial : Bool) (s : List Char) : Path :=
  let pieces := (pieces isSpecial s).map (encodeChars isPathEncoded)
  .segments ((collect push [] pieces).map String.ofList)

/-- Adds a segment to the path of a file. If the first segment is the letter of a drive, a colon
is put behind the letter. Characters behind such a colon are a segment of their own. -/
def pushFile (done : List (List Char)) (s : List Char) : List (List Char) :=
  match done, s with
  | [], [letter, mark] => if isDrive [letter, mark] then [[letter, ':']] else push [] s
  | [], letter :: ':' :: rest => if letter.isAlpha then [rest, [letter, ':']] else push [] s
  | _, _ => push done s

/-- Whether the letter of a drive is met as the first segment. -/
def meetsDrive : List (List Char) → List (List Char) → Bool
  | _, [] => false
  | done, s :: rest => (done.isEmpty && isDrive s) || meetsDrive (pushFile done s) rest

/-- The path of a file behind its first slash, and whether it is on a drive. Empty segments at
its start are left out. -/
def parseFile (s : List Char) : Path × Bool :=
  let pieces := (pieces true s).map (encodeChars isPathEncoded)
  let kept := match (collect pushFile [] pieces).dropWhile (·.isEmpty) with
    | [] => [[]]
    | list => list
  (.segments (kept.map String.ofList), meetsDrive [] pieces)

end Path

end Url

end SurfaceBridge
