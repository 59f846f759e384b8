import SurfaceBridge.Unicode.Category
import SurfaceBridge.Unicode.Direction
import SurfaceBridge.Unicode.DomainMapping
import SurfaceBridge.Unicode.Joining
import SurfaceBridge.Unicode.Normal
import SurfaceBridge.Url.Punycode

set_option autoImplicit false

/-! # Domain names

A domain name is a list of labels with dots between them. It may be written with characters of
all scripts. Its ASCII form is made in three steps: each character is replaced by what it stands
for, the text is brought into its composed form, and every label with a character outside ASCII
is written in Punycode behind `xn--`.

A label that is in Punycode already has to be what these steps make of some label. Labels may be
empty, and hyphens may stand anywhere.
-/

namespace SurfaceBridge

namespace Url

/-- A label as it is read and as it is written in ASCII. -/
structure DomainLabel where
  shown : List Char
  written : List Char

namespace DomainName

/-- Whether a character is in ASCII. -/
def isAscii (c : Char) : Bool := c.toNat < 0x80

/-- What a character stands for, unless it is not allowed. -/
def standsFor (c : Char) : Option (List Char) :=
  let n := c.toNat
  if n < 0x80 then some [c.toLower]
  else
    match Unicode.domainMapping.get? n with
    | some targets => some (targets.map Char.ofNat)
    | none =>
      if Unicode.domainIgnored.contains n then some []
      else if Unicode.domainValid.contains n then some [c]
      else none

/-- A text with each character replaced by what it stands for. -/
def standFor : List Char → Option (List Char)
  | [] => some []
  | c :: cs =>
    match standsFor c, standFor cs with
    | some targets, some rest => some (targets ++ rest)
    | _, _ => none

/-- The characters of ASCII that no host may hold. -/
def isForbidden (c : Char) : Bool :=
  c.toNat ≤ 0x20 || c.toNat = 0x7F
    || ['%', '#', '/', ':', '<', '>', '?', '@', '[', '\\', ']', '^', '|'].contains c

/-- Whether a character is a mark that needs a base. -/
def isMark (c : Char) : Bool :=
  0x300 ≤ c.toNat && Unicode.inCategory ["Mn", "Mc", "Me"] c.toNat

/-- Whether the first character that is not transparent joins in one of some ways. -/
def joins (ways : List Unicode.Joining) : List Char → Bool
  | [] => false
  | c :: cs =>
    match Unicode.joining? c.toNat with
    | some .transparent => joins ways cs
    | some way => ways.contains way
    | none => false

/-- Whether a joiner may stand between two texts, the first of them in reverse. It may follow a
mark that silences a vowel, and one that parts letters may stand where they would join. -/
def isJoinerAllowed (c : Char) (before after : List Char) : Bool :=
  (match before with
    | [] => false
    | d :: _ => Unicode.combiningClass d.toNat = 9)
  || (c.toNat = 0x200C && joins [.leftJoining, .dualJoining] before
    && joins [.rightJoining, .dualJoining] after)

/-- Whether every joiner in a text is allowed. What is in front comes in reverse. -/
def areJoinersAllowed (before : List Char) : List Char → Bool
  | [] => true
  | c :: cs =>
    (if c.toNat = 0x200C || c.toNat = 0x200D then isJoinerAllowed c before cs else true)
      && areJoinersAllowed (c :: before) cs

/-- Whether a text of valid characters may be a label: it does not start with a mark, and its
joiners are allowed. -/
def isLabel (s : List Char) : Bool :=
  (match s with
    | [] => true
    | c :: _ => !isMark c)
  && areJoinersAllowed [] s

/-- The most characters that a label outside ASCII may have, and the most that its form in
Punycode may have. -/
def shownLimit : Nat := 1000
def writtenLimit : Nat := 2000

/-- The label that is written in Punycode. -/
def labelOfPunycode (s : List Char) : Option DomainLabel :=
  if writtenLimit < s.length then none
  else
    match Punycode.decode? s with
    | none => none
    | some shown =>
      let isValid := shown.all fun c => standsFor c == some [c]
      if !shown.all isAscii && isValid && Unicode.composed shown == shown && isLabel shown then
        some ⟨shown, 'x' :: 'n' :: '-' :: '-' :: s⟩
      else none

/-- The label that a text in composed form is. -/
def labelOfChars (s : List Char) : Option DomainLabel :=
  match s with
  | 'x' :: 'n' :: '-' :: '-' :: rest => labelOfPunycode rest
  | _ =>
    if s.all isAscii then some ⟨s, s⟩
    else if s.length ≤ shownLimit && isLabel s then
      some ⟨s, 'x' :: 'n' :: '-' :: '-' :: Punycode.encode s⟩
    else none

/-- Whether a character runs from right to left. -/
def isRightToLeft (c : Char) : Bool :=
  0x590 ≤ c.toNat &&
    [.rightToLeft, .arabicLetter, .arabicNumber].contains (Unicode.direction c.toNat)

/-- Whether a label reads the same way wherever it stands among labels of both directions. -/
def isDirected (s : List Char) : Bool :=
  let directions := s.map fun c => Unicode.direction c.toNat
  let last := (directions.reverse.dropWhile (· = .nonspacingMark)).head?
  let neutral : List Unicode.Direction :=
    [.europeanNumber, .europeanSeparator, .commonSeparator, .europeanTerminator, .otherNeutral,
      .boundaryNeutral, .nonspacingMark]
  match directions.head? with
  | none => true
  | some .leftToRight =>
    directions.all (fun d => d = .leftToRight || neutral.contains d)
      && (last = some .leftToRight || last = some .europeanNumber)
  | some .rightToLeft | some .arabicLetter =>
    let own : List Unicode.Direction := [.rightToLeft, .arabicLetter, .arabicNumber]
    directions.all (fun d => own.contains d || neutral.contains d)
      && (match last with
        | some d => own.contains d || d = .europeanNumber
        | none => false)
      && !(directions.contains .europeanNumber && directions.contains .arabicNumber)
  | some _ => false

/-- The ASCII form of a domain name. -/
def toAscii (s : List Char) : Option (List Char) :=
  match standFor s with
  | none => none
  | some replaced =>
    let normal := Unicode.composed replaced
    if normal.any isForbidden then none
    else
      match (normal.splitOnP (· = '.')).mapM labelOfChars with
      | none => none
      | some labels =>
        let isMixed := labels.any fun label => label.shown.any isRightToLeft
        if isMixed && !labels.all (isDirected ·.shown) then none
        else some (['.'].intercalate (labels.map (·.written)))

end DomainName

end Url

end SurfaceBridge
