import SurfaceBridge.Pattern.Expr

set_option autoImplicit false

/-! # Programs

An expression becomes a program: an array of instructions that name the addresses of the
instructions to go on with. Compiling works backwards, from the address that follows an
expression to the address at which it starts.

A split lists where to go on in order of preference. The body of a loop is followed by a split
that leads back to the body or on, so a body that matches the empty text is tried once and then
left.
-/

namespace SurfaceBridge

namespace Pattern

open Unicode (RangeTable)

/-- One instruction. Slots `2 * k` and `2 * k + 1` record where group `k` starts and stops. -/
inductive Instr where
  | accept
  | set (members : RangeTable) (next : Nat)
  | look (kind : Look) (next : Nat)
  | save (slot : Nat) (next : Nat)
  | split (nexts : List Nat)

/-- Instructions and the address to start at. -/
structure Program where
  code : Array Instr
  start : Nat

/-- What compiles the code in front of an address: it adds instructions and returns the address
at which they start. -/
abbrev Assembler := Nat → Array Instr → Nat × Array Instr

/-- Adds one instruction. -/
def emit (code : Array Instr) (i : Instr) : Nat × Array Instr := (code.size, code.push i)

/-- A choice between a body and what follows it. -/
def fork (greedy : Bool) (body next : Nat) : Instr :=
  .split (if greedy then [body, next] else [next, body])

/-- The code of a body a number of times in a row. -/
def copies (body : Assembler) : Nat → Assembler
  | 0, next, code => (next, code)
  | n + 1, next, code =>
    let (start, code) := body next code
    copies body n start code

/-- The code of a body up to a number of times; each time may be left for `exit`. -/
def options (body : Assembler) (greedy : Bool) (exit : Nat) : Nat → Assembler
  | 0, next, code => (next, code)
  | n + 1, next, code =>
    let (start, code) := body next code
    let (start, code) := emit code (fork greedy start exit)
    options body greedy exit n start code

/-- The code of a body once or more often. -/
def loop (body : Assembler) (greedy : Bool) : Assembler := fun next code =>
  let (again, code) := emit code (.split [])
  let (start, code) := body again code
  (start, code.setIfInBounds again (fork greedy start next))

/-- The code of a repeated body. -/
def repeatBody (body : Assembler) (least : Nat) (most : Option Nat) (greedy : Bool) :
    Assembler := fun next code =>
  match most, least with
  | some most, _ =>
    let (start, code) := options body greedy next (most - least) next code
    copies body least start code
  | none, 0 =>
    let (start, code) := loop body greedy next code
    emit code (fork greedy start next)
  | none, more + 1 =>
    let (start, code) := loop body greedy next code
    copies body more start code

mutual

/-- The code of an expression. -/
def Expr.assemble : Expr → Assembler
  | .empty, next, code => (next, code)
  | .set members, next, code => emit code (.set members next)
  | .look kind, next, code => emit code (.look kind next)
  | .repetition e least most greedy, next, code => repeatBody e.assemble least most greedy next code
  | .capture index e, next, code =>
    let (stop, code) := emit code (.save (2 * index + 1) next)
    let (start, code) := e.assemble stop code
    emit code (.save (2 * index) start)
  | .sequence es, next, code => Expr.assembleSequence es next code
  | .choice es, next, code =>
    let (starts, code) := Expr.assembleChoice es next code
    emit code (.split starts)

/-- The code of expressions one after the other. -/
def Expr.assembleSequence : List Expr → Assembler
  | [], next, code => (next, code)
  | e :: es, next, code =>
    let (start, code) := Expr.assembleSequence es next code
    e.assemble start code

/-- The code of alternatives, with their starts. -/
def Expr.assembleChoice : List Expr → Nat → Array Instr → List Nat × Array Instr
  | [], _, code => ([], code)
  | e :: es, next, code =>
    let (start, code) := e.assemble next code
    let (starts, code) := Expr.assembleChoice es next code
    (start :: starts, code)

end

/-- The program of an expression. -/
def Expr.program (e : Expr) : Program :=
  let (accept, code) := emit #[] .accept
  let (start, code) := e.assemble accept code
  ⟨code, start⟩

end Pattern

end SurfaceBridge
