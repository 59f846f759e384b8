import SurfaceBridge.Pattern.Shape

set_option autoImplicit false

/-! # The size of machines

A pattern is refused if one of the two machines that are built for it takes too much memory. Both
read bytes. One goes forward and records groups; the other goes backward and finds where matches
start. A machine is a number of states: those that read one range of bytes, those that choose
between several ranges, each with its transition, and those that go on to several states, each with
an entry.

What a set takes depends on the direction. Forward its machine has one state for all that is
followed by the same bytes. Backward there is one state for each beginning of its sequences, as
the machine comes to the first byte of a character last, and an entry for each sequence.
-/

namespace SurfaceBridge

namespace Pattern

open Unicode (RangeTable)

/-- The bytes that a state takes. -/
def stateSize : Nat := 32

/-- The bytes that a state takes which chooses between ranges of bytes. -/
def sparseSize (transitions : Nat) : Nat := stateSize + 8 * transitions

/-- The bytes that a state takes which goes on to several states. -/
def unionSize (entries : Nat) : Nat := stateSize + 4 * entries

/-- Several sizes together. -/
def total (sizes : List Nat) : Nat := sizes.foldl (fun n size => n + size) 0

/-- The bytes that neither machine may exceed. -/
def sizeLimit : Nat := 10485760

/-- The direction in which a machine reads. -/
inductive Direction where
  | forward
  | backward
deriving DecidableEq

/-- The greatest number of bytes of a character. -/
def longestCharacter : Nat := 4

/-- The size of a set, with the state that follows it. -/
def setSize (d : Direction) (s : RangeTable) : Nat :=
  if s.isAscii then sparseSize s.size + stateSize
  else
    let sequences := byteSequences s
    match d with
    | .forward =>
      let states := (rests longestCharacter sequences).eraseDups
      total (states.map fun state => sparseSize (branches state).length) + stateSize
    | .backward =>
      unionSize sequences.length + stateSize * beginnings [] sequences + stateSize

/-! ## Choices between literals

The literals of a choice share a machine in the form of a tree. Behind a place where one of them
ends only those that come later in the choice may go on, so the ways on from that place are divided
into runs.
-/

/-- Divides literals where one of them ends. -/
def runs : List (List Nat) → List (List (List Nat))
  | [] => [[]]
  | [] :: literals => [] :: runs literals
  | literal :: literals =>
    match runs literals with
    | [] => [[literal]]
    | run :: others => (literal :: run) :: others

/-- The rests of the literals that start with a byte. -/
def behind (byte : Nat) (literals : List (List Nat)) : List (List Nat) :=
  literals.filterMap fun literal =>
    match literal with
    | [] => none
    | first :: rest => if first = byte then some rest else none

/-- The ways on from a place: for each byte, the rests of the literals behind it. -/
def ways (run : List (List Nat)) : List (List (List Nat)) :=
  (run.filterMap List.head?).eraseDups.map fun byte => behind byte run

/-- How often a place leads to the end: once for the literals that end there before any goes on,
and once for each that ends there later. -/
def endings (literals : List (List Nat)) : Nat :=
  let later := literals.dropWhile List.isEmpty
  (literals.headD [0]).isEmpty.toNat + later.countP List.isEmpty

/-- The size of the tree behind a place. Literals have bounded length. -/
def treeSize : Nat → List (List Nat) → Nat
  | 0, _ => 0
  | length + 1, literals =>
    if literals.all List.isEmpty then 0
    else
      let groups := ((runs literals).filter fun run => !run.isEmpty).map ways
      let state (group : List (List (List Nat))) : Nat :=
        if group.length = 1 then stateSize else sparseSize group.length
      unionSize (groups.length + endings literals) + total (groups.map state)
        + total (groups.flatten.map (treeSize length))

/-- The size of a choice between literals. -/
def literalsSize (d : Direction) (literals : List (List Char)) : Nat :=
  let read (literal : List Char) : List Nat :=
    match d with
    | .forward => literal.flatMap bytes
    | .backward => (literal.flatMap bytes).reverse
  let texts := literals.map read
  treeSize ((texts.map List.length).foldl max 0) texts + stateSize

/-! ## Shapes -/

namespace Shape

/-- The text of a literal. -/
def literal? : Shape → Option (List Char)
  | .literal cs => some cs
  | _ => none

/-- The size of a repetition of something with a size. -/
def repeatedSize (size : Nat) (isNonempty : Bool) (least : Nat) : Option Nat → Nat
  | none =>
    match least with
    | 0 => if isNonempty then size + unionSize 2 else size + 2 * unionSize 2 + stateSize
    | copies => copies * size + unionSize 2
  | some most =>
    if least = most then most * size
    else if least = 0 ∧ most = 1 then size + unionSize 2 + stateSize
    else
      (if least = 0 then stateSize else least * size) + stateSize
        + (most - least) * (size + unionSize 2)

mutual

/-- The size of a shape. -/
def size (d : Direction) : Shape → Nat
  | .empty => stateSize
  | .literal cs => stateSize * (cs.flatMap bytes).length
  | .set s => setSize d s
  | .look _ => stateSize
  | .repetition s least most _ =>
    repeatedSize (size d s) (0 < (leastBytes? s).getD 0) least most
  | .capture _ s => if d = .forward then size d s + 2 * stateSize else size d s
  | .sequence ss => sizes d ss
  | .choice ss =>
    match ss.mapM literal? with
    | some literals => literalsSize d literals
    | none => sizes d ss + unionSize ss.length + stateSize

/-- The size of some shapes together. -/
def sizes (d : Direction) : List Shape → Nat
  | [] => 0
  | s :: ss => size d s + sizes d ss

end

/-- Whether a shape is a choice between so many literals that no machine is built for it. -/
def isDictionary : Shape → Bool
  | .choice ss => 3000 ≤ ss.length && (ss.mapM literal?).isSome
  | _ => false

end Shape

/-! ## Whole machines -/

mutual

/-- Whether all matches lie at the end of the text at which a machine starts. -/
def Expr.isAnchored (d : Direction) : Expr → Bool
  | .look kind => kind = if d = .forward then .textStart else .textEnd
  | .repetition e least _ _ => 0 < least && e.isAnchored d
  | .capture _ e => e.isAnchored d
  | .sequence es => Expr.isOneAnchored d es
  | .choice es => Expr.areAnchored d es
  | _ => false

/-- Whether an expression of a sequence is anchored, with nothing between it and the place where
a machine starts. -/
def Expr.isOneAnchored (d : Direction) : List Expr → Bool
  | [] => false
  | e :: es =>
    match d with
    | .forward => e.isAnchored d || (e.isBlank && Expr.isOneAnchored d es)
    | .backward => Expr.isOneAnchored d es || (Expr.areBlank es && e.isAnchored d)

/-- Whether expressions are all anchored. -/
def Expr.areAnchored (d : Direction) : List Expr → Bool
  | [] => true
  | e :: es => e.isAnchored d && Expr.areAnchored d es

end

/-- The size of a machine for an expression. In front of the expression it passes over bytes, unless
all matches lie where it starts. Forward the match itself is a group, and behind it is the state of
acceptance. -/
def Expr.machineSize (d : Direction) (e : Expr) : Nat :=
  let start := if e.isAnchored d then stateSize else unionSize 2 + sparseSize 1 + stateSize
  start + (Shape.capture 0 e.shape).size d + stateSize

/-- Whether no machine of an expression is too large. -/
def Expr.fits (e : Expr) : Bool :=
  e.shape.isDictionary
    || (e.machineSize .forward ≤ sizeLimit && e.machineSize .backward ≤ sizeLimit)

end Pattern

end SurfaceBridge
