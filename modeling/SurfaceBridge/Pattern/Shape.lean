import SurfaceBridge.Pattern.ByteRanges

set_option autoImplicit false

/-! # Simplified expressions

Before a machine is built, an expression is simplified. Characters that follow one another form one
literal. Sequences in sequences and choices in choices are flattened, what is empty is left out
of sequences, choices between characters or between sets become sets, and alternatives that
start alike share their start.
-/

namespace SurfaceBridge

namespace Pattern

open Unicode (RangeTable)

/-- A simplified expression. -/
inductive Shape where
  | empty
  | literal (chars : List Char)
  | set (members : RangeTable)
  | look (kind : Look)
  | repetition (shape : Shape) (least : Nat) (most : Option Nat) (greedy : Bool)
  | capture (index : Nat) (shape : Shape)
  | sequence (shapes : List Shape)
  | choice (shapes : List Shape)

namespace Shape

mutual

/-- Whether two shapes are the same. -/
def same : Shape → Shape → Bool
  | .empty, .empty => true
  | .literal cs, .literal ds => cs == ds
  | .set s, .set t => s == t
  | .look j, .look k => j = k
  | .repetition s least most greedy, .repetition t least' most' greedy' =>
    same s t && least == least' && most == most' && greedy == greedy'
  | .capture i s, .capture j t => i == j && same s t
  | .sequence ss, .sequence ts => allSame ss ts
  | .choice ss, .choice ts => allSame ss ts
  | _, _ => false

/-- Whether two lists of shapes are the same. -/
def allSame : List Shape → List Shape → Bool
  | [], [] => true
  | s :: ss, t :: ts => same s t && allSame ss ts
  | _, _ => false

end

instance : BEq Shape := ⟨same⟩

/-- A set; one character on its own is a literal. -/
def ofSet (s : RangeTable) : Shape :=
  match s.toList with
  | [(first, last)] => if first = last then .literal [Char.ofNat first] else .set s
  | _ => .set s

/-! ## Sequences -/

/-- The parts that a shape adds to a sequence. -/
def parts : Shape → List Shape
  | .empty => []
  | .sequence ss => ss
  | s => [s]

/-- Makes one literal of those that follow one another. -/
def joinLiterals : List Shape → List Shape
  | [] => []
  | s :: ss =>
    match s, joinLiterals ss with
    | .literal cs, .literal ds :: rest => .literal (cs ++ ds) :: rest
    | s, rest => s :: rest

/-- Shapes one after the other. -/
def ofSequence (ss : List Shape) : Shape :=
  match joinLiterals (ss.flatMap parts) with
  | [] => .empty
  | [s] => s
  | ss => .sequence ss

/-- The parts of a sequence. -/
def sequence? : Shape → Option (List Shape)
  | .sequence ss => some ss
  | _ => none

/-! ## Choices -/

/-- The alternatives that a shape adds to a choice. -/
def alternatives : Shape → List Shape
  | .choice ss => ss
  | s => [s]

/-- The members of a literal of one character. -/
def character? : Shape → Option (List (Nat × Nat))
  | .literal [c] => some [(c.toNat, c.toNat)]
  | _ => none

/-- The members of a set. -/
def members? : Shape → Option (List (Nat × Nat))
  | .set s => some s.toList
  | _ => none

/-- Puts a range in front of those that start behind it. -/
def insertRange (range : Nat × Nat) : List (Nat × Nat) → List (Nat × Nat)
  | [] => [range]
  | r :: rs => if range.1 ≤ r.1 then range :: r :: rs else r :: insertRange range rs

/-- The set of the members of some ranges. It is sorted one range at a time, so that evaluation
goes along the list. -/
def joinRanges (ranges : List (Nat × Nat)) : RangeTable :=
  match ranges.foldr insertRange [] with
  | [] => #[]
  | (first, last) :: rest => (RangeTable.join first last rest).toArray

/-- A choice between alternatives that are no choices. -/
def merge (ss : List Shape) : Shape :=
  match ss with
  | [] => .set #[]
  | [s] => s
  | ss =>
    match ss.mapM character? <|> ss.mapM members? with
    | some members => ofSet (joinRanges members.flatten)
    | none => .choice ss

/-- The parts that two sequences have in common at their start. -/
def common : List Shape → List Shape → List Shape
  | s :: ss, t :: ts => if s == t then s :: common ss ts else []
  | _, _ => []

/-- A choice. If all alternatives are sequences, the start that they have in common is put in front
of the choice between their rests. -/
def ofChoice (ss : List Shape) : Shape :=
  let ss := ss.flatMap alternatives
  match ss.mapM sequence? with
  | some (first :: second :: others) =>
    let shared := (second :: others).foldl common first
    if shared.isEmpty then merge ss
    else
      let rests := (first :: second :: others).map fun s => ofSequence (s.drop shared.length)
      ofSequence (shared ++ [merge (rests.flatMap alternatives)])
  | _ => merge ss

/-! ## How long matches are -/

mutual

/-- The least number of bytes that a match takes, if there can be one. -/
def leastBytes? : Shape → Option Nat
  | .empty => some 0
  | .literal cs => some (cs.flatMap bytes).length
  | .set s => s.toList.head?.map fun r => (bytes (Char.ofNat r.1)).length
  | .look _ => some 0
  | .repetition s least _ _ => (leastBytes? s).map (least * ·)
  | .capture _ s => leastBytes? s
  | .sequence ss => allBytes? ss
  | .choice ss => anyBytes? ss

/-- The least number of bytes that a match of some shapes in a row takes. -/
def allBytes? : List Shape → Option Nat
  | [] => some 0
  | s :: ss =>
    match leastBytes? s, allBytes? ss with
    | some n, some k => some (n + k)
    | _, _ => none

/-- The least number of bytes that a match of one of some shapes takes, if each can match. -/
def anyBytes? : List Shape → Option Nat
  | [] => none
  | [s] => leastBytes? s
  | s :: ss =>
    match leastBytes? s, anyBytes? ss with
    | some n, some k => some (min n k)
    | _, _ => none

end

end Shape

/-! ## From expressions -/

mutual

/-- The simplified form of an expression. -/
def Expr.shape : Expr → Shape
  | .empty => .empty
  | .set s => .ofSet (characters s)
  | .look kind => .look kind
  | .repetition e least most greedy => .repetition e.shape least most greedy
  | .capture index e => .capture index e.shape
  | .sequence es => .ofSequence (Expr.shapes es)
  | .choice es => .ofChoice (Expr.shapes es)

/-- The simplified forms of expressions. -/
def Expr.shapes : List Expr → List Shape
  | [] => []
  | e :: es => e.shape :: Expr.shapes es

end

end Pattern

end SurfaceBridge
