import SurfaceBridge.Pattern.Tree
import SurfaceBridge.Unicode.ClassName
import SurfaceBridge.Unicode.CaseFold

set_option autoImplicit false

/-! # What a pattern matches

In an `Expr` all modes are settled: classes are sets of code points, assertions say what they
test, and repetitions say which way they lean.

Without the Unicode mode classes are sets of bytes. A text holds no bytes that are not part of a
character, so a class must stay within ASCII there, and so must what it is made of.
-/

namespace SurfaceBridge

namespace Pattern

open Unicode (RangeTable)

/-- What is asked of a position, by the characters around it. -/
inductive Look where
  | textStart
  | textEnd
  | lineStart
  | lineEnd
  | crlfStart
  | crlfEnd
  | wordBoundary (ascii : Bool)
  | notWordBoundary (ascii : Bool)
  | wordStart (ascii : Bool)
  | wordEnd (ascii : Bool)
  | wordStartHalf (ascii : Bool)
  | wordEndHalf (ascii : Bool)
deriving DecidableEq

/-- An expression without modes. A choice prefers its earlier alternatives. -/
inductive Expr where
  | empty
  | set (members : RangeTable)
  | look (kind : Look)
  | repetition (expr : Expr) (least : Nat) (most : Option Nat) (greedy : Bool)
  | capture (index : Nat) (expr : Expr)
  | sequence (exprs : List Expr)
  | choice (exprs : List Expr)

mutual

/-- Whether an expression matches nothing but the empty text. -/
def Expr.isBlank : Expr → Bool
  | .empty => true
  | .set _ => false
  | .look _ => true
  | .repetition e _ _ _ => e.isBlank
  | .capture _ e => e.isBlank
  | .sequence es => Expr.areBlank es
  | .choice es => Expr.areBlank es

/-- Whether expressions match nothing but the empty text. -/
def Expr.areBlank : List Expr → Bool
  | [] => true
  | e :: es => e.isBlank && Expr.areBlank es

end

/-- A repetition. What matches only the empty text need not be repeated more than once. -/
def Expr.repeated (e : Expr) (least : Nat) (most : Option Nat) (greedy : Bool) : Expr :=
  let (least, most) :=
    if e.isBlank then (min least 1, some (min (most.getD 1) 1)) else (least, most)
  match least, most with
  | 0, some 0 => .empty
  | 1, some 1 => e
  | least, most => .repetition e least most greedy

/-- The modes that flags switch. -/
structure Modes where
  ignoreCase : Bool
  multiLine : Bool
  dotMatchesNewline : Bool
  swapGreed : Bool
  unicode : Bool
  crlf : Bool

namespace Modes

/-- The modes that a pattern starts with. -/
def initial : Modes := ⟨false, false, false, false, true, false⟩

/-- Switches one mode. -/
def switch (m : Modes) : Flag × Bool → Modes
  | (.ignoreCase, b) => { m with ignoreCase := b }
  | (.multiLine, b) => { m with multiLine := b }
  | (.dotMatchesNewline, b) => { m with dotMatchesNewline := b }
  | (.swapGreed, b) => { m with swapGreed := b }
  | (.unicode, b) => { m with unicode := b }
  | (.crlf, b) => { m with crlf := b }
  | (.extended, _) => m

/-- Switches the modes that flags name. -/
def apply (m : Modes) (flags : Flags) : Modes := flags.foldl switch m

end Modes

/-! ## Classes -/

/-- The characters of a class with a one-letter escape, in ASCII only. -/
def ShortClass.asciiSet : ShortClass → RangeTable
  | .digit => #[(48, 57)]
  | .space => #[(9, 13), (32, 32)]
  | .word => #[(48, 57), (65, 90), (95, 95), (97, 122)]

/-- The characters of a class with a one-letter escape. -/
def ShortClass.set : ShortClass → RangeTable
  | .digit => Unicode.digitSet
  | .space => Unicode.spaceSet
  | .word => Unicode.wordSet

/-- The characters of a class with a name. -/
def ClassQuery.set? : ClassQuery → Option RangeTable
  | .name asked => Unicode.namedClass? asked
  | .property asked value => Unicode.valuedClass? asked value

/-- The part of a set that lies between two code points. -/
def within (first last : Nat) (s : RangeTable) : List (Nat × Nat) :=
  s.toList.filterMap fun (a, b) =>
    let low := max a first
    let high := min b last
    if low ≤ high then some (low, high) else none

/-- A set of ASCII characters together with its letters in the other case. -/
def foldAscii (s : RangeTable) : RangeTable :=
  let lower := (within 65 90 s).map fun (a, b) => (a + 32, b + 32)
  let upper := (within 97 122 s).map fun (a, b) => (a - 32, b - 32)
  RangeTable.ofRanges (s.toList ++ lower ++ upper)

namespace Modes

/-- A set with the members that differ from its own only by case, if case does not matter. -/
def fold (m : Modes) (s : RangeTable) : RangeTable :=
  if m.ignoreCase then if m.unicode then Unicode.foldClosure s else foldAscii s else s

/-- The opposite of a set, if asked for. The opposite of a set of ASCII characters has bytes
that are no characters. -/
def negate (m : Modes) (negated : Bool) (s : RangeTable) : Option RangeTable :=
  if negated then if m.unicode then some s.complement else none else some s

/-- The code point of a character in a class. -/
def member (m : Modes) (w : Written) : Option Nat :=
  if m.unicode ∨ w.char.toNat < 0x80 then some w.char.toNat else none

/-- The set of a class with a one-letter escape. -/
def short (m : Modes) (negated : Bool) (kind : ShortClass) : Option RangeTable :=
  m.negate negated (if m.unicode then kind.set else kind.asciiSet)

/-- The set of a class with a name. -/
def named (m : Modes) (negated : Bool) (query : ClassQuery) : Option RangeTable :=
  if m.unicode then
    match query.set? with
    | none => none
    | some s => m.negate negated (m.fold s)
  else none

end Modes

mutual

/-- The set that is written in a bracket. -/
def SetTree.set? (m : Modes) : SetTree → Option RangeTable
  | .empty => some #[]
  | .literal w => (m.member w).map RangeTable.singleton
  | .range first last =>
    match m.member first, m.member last with
    | some a, some b => some #[(a, b)]
    | _, _ => none
  | .ascii negated ranges => m.negate negated (m.fold (RangeTable.ofRanges ranges))
  | .short negated kind => m.short negated kind
  | .named negated query => m.named negated query
  | .bracket negated inner =>
    match inner.set? m with
    | none => none
    | some s => m.negate negated (m.fold s)
  | .union items => (SetTree.ranges m items).map RangeTable.ofRanges
  | .operation operator left right =>
    match left.set? m, right.set? m with
    | some s, some t =>
      let s := m.fold s
      let t := m.fold t
      match operator with
      | .intersection => some (s.inter t)
      | .difference => some (s.diff t)
      | .symmetricDifference => some (s.symmDiff t)
    | _, _ => none

/-- The ranges of several sets. -/
def SetTree.ranges (m : Modes) : List SetTree → Option (List (Nat × Nat))
  | [] => some []
  | t :: ts =>
    match t.set? m, SetTree.ranges m ts with
    | some s, some rest => some (s.toList ++ rest)
    | _, _ => none

end

/-! ## Expressions -/

namespace Modes

/-- A character on its own. -/
def literal (m : Modes) (w : Written) : Option Expr :=
  if !m.unicode && w.byte && 0x80 ≤ w.char.toNat then none
  else if !m.unicode && 0x80 ≤ w.char.toNat then some (.set (RangeTable.singleton w.char.toNat))
  else some (.set (m.fold (RangeTable.singleton w.char.toNat)))

/-- Any character, or any but the ends of lines. -/
def dot (m : Modes) : Option Expr :=
  if !m.unicode then none
  else if m.dotMatchesNewline then some (.set #[(0, RangeTable.lastPoint)])
  else if m.crlf then some (.set (RangeTable.complement #[(10, 10), (13, 13)]))
  else some (.set (RangeTable.complement #[(10, 10)]))

/-- What an assertion asks for. -/
def look (m : Modes) : Assertion → Look
  | .lineStart => if m.multiLine then if m.crlf then .crlfStart else .lineStart else .textStart
  | .lineEnd => if m.multiLine then if m.crlf then .crlfEnd else .lineEnd else .textEnd
  | .textStart => .textStart
  | .textEnd => .textEnd
  | .wordBoundary => .wordBoundary !m.unicode
  | .notWordBoundary => .notWordBoundary !m.unicode
  | .wordStart => .wordStart !m.unicode
  | .wordEnd => .wordEnd !m.unicode
  | .wordStartHalf => .wordStartHalf !m.unicode
  | .wordEndHalf => .wordEndHalf !m.unicode

end Modes

mutual

/-- The expression of a pattern, and the modes that hold behind it. Modes that are switched in
a group end with the group. -/
def Tree.expr? (m : Modes) : Tree → Option (Expr × Modes)
  | .empty => some (.empty, m)
  | .flags switches => some (.empty, m.apply switches)
  | .literal w => (m.literal w).map fun e => (e, m)
  | .dot => m.dot.map fun e => (e, m)
  | .assertion kind => some (.look (m.look kind), m)
  | .short negated kind => (m.short negated kind).map fun s => (.set s, m)
  | .named negated query => (m.named negated query).map fun s => (.set s, m)
  | .bracket negated inner =>
    match inner.set? m with
    | none => none
    | some s => (m.negate negated (m.fold s)).map fun s => (.set s, m)
  | .repetition t least most greedy =>
    match t.expr? m with
    | none => none
    | some (e, after) => some (e.repeated least most (greedy != after.swapGreed), after)
  | .group (.capture index) t => (t.expr? m).map fun (e, _) => (.capture index e, m)
  | .group (.plain switches) t => (t.expr? (m.apply switches)).map fun (e, _) => (e, m)
  | .sequence ts => (Tree.exprs? m ts).map fun (es, after) => (.sequence es, after)
  | .choice ts => (Tree.exprs? m ts).map fun (es, after) => (.choice es, after)

/-- The expressions of several patterns, with the modes handed from each to the next. -/
def Tree.exprs? (m : Modes) : List Tree → Option (List Expr × Modes)
  | [] => some ([], m)
  | t :: ts =>
    match t.expr? m with
    | none => none
    | some (e, after) => (Tree.exprs? after ts).map fun (es, after) => (e :: es, after)

end

end Pattern

end SurfaceBridge
