import SurfaceBridge.Pattern.Program
import SurfaceBridge.Pattern.Reader
import SurfaceBridge.Pattern.Size
import SurfaceBridge.Text.Bytes

set_option autoImplicit false

/-! # Searching with a pattern

All ways of matching are followed at once, one character at a time. The threads are kept in
order of preference: a thread that accepts ends all threads behind it, and those in front of it
may still replace its match. A new thread starts at each position, behind all others, as long as
there is no match. So the leftmost match is found, and among those that start there the one that
the pattern prefers.

Positions are counted in characters from the place where the search starts. `findAt` searches a
line from a place on and counts in bytes from the start of the line.
-/

namespace SurfaceBridge

namespace Pattern

/-- Whether a character belongs to words. -/
def isWordChar (ascii : Bool) (c : Option Char) : Bool :=
  match c with
  | none => false
  | some c => (if ascii then ShortClass.word.asciiSet else Unicode.wordSet).contains c.toNat

/-- Whether a position between two characters is as asked; at the ends of the text there is no
character on one side. -/
def Look.holds (before after : Option Char) : Look → Bool
  | .textStart => before.isNone
  | .textEnd => after.isNone
  | .lineStart => before.isNone || before = some '\n'
  | .lineEnd => after.isNone || after = some '\n'
  | .crlfStart =>
    before.isNone || before = some '\n' || (before = some '\r' && after ≠ some '\n')
  | .crlfEnd => after.isNone || after = some '\r' || (after = some '\n' && before ≠ some '\r')
  | .wordBoundary ascii => isWordChar ascii before != isWordChar ascii after
  | .notWordBoundary ascii => isWordChar ascii before == isWordChar ascii after
  | .wordStart ascii => !isWordChar ascii before && isWordChar ascii after
  | .wordEnd ascii => isWordChar ascii before && !isWordChar ascii after
  | .wordStartHalf ascii => !isWordChar ascii before
  | .wordEndHalf ascii => !isWordChar ascii after

/-- One way of matching: the address it has reached, where its match starts, and the positions
in its slots, the latest first. -/
structure Thread where
  address : Nat
  start : Nat
  slots : List (Nat × Nat)

/-- Moves a thread to another address. -/
def Thread.goto (t : Thread) (address : Nat) : Thread := { t with address := address }

/-- Records a position in a slot of a thread. -/
def Thread.save (t : Thread) (slot position : Nat) : Thread :=
  { t with slots := (slot, position) :: t.slots.filter fun s => s.1 ≠ slot }

/-- Where the threads go from an address without reading a character. -/
def Instr.follow (before after : Option Char) (position : Nat) (t : Thread) :
    Instr → List Thread
  | .accept => []
  | .set _ _ => []
  | .look kind next => if kind.holds before after then [t.goto next] else []
  | .save slot next => [(t.save slot position).goto next]
  | .split nexts => nexts.map t.goto

/-- Whether threads wait at an instruction, to read a character or to accept. -/
def Instr.isWaiting : Instr → Bool
  | .accept => true
  | .set _ _ => true
  | _ => false

/-- The bound on the steps of `Program.close`: each address is entered once, and what it leads
to is looked at once. -/
def Program.edges (p : Program) : Nat :=
  p.code.foldl (fun n i => n + match i with | .split nexts => nexts.length | _ => 1) 0

/-- Follows threads to the instructions at which they wait. Only the first thread that reaches
an address is kept there. -/
def Program.close (p : Program) (before after : Option Char) (position : Nat) :
    Nat → List Thread → Array Bool → List Thread
  | 0, _, _ => []
  | _, [], _ => []
  | fuel + 1, t :: ts, visited =>
    if visited.getD t.address true then p.close before after position fuel ts visited
    else
      match p.code[t.address]? with
      | none => p.close before after position fuel ts visited
      | some i =>
        let visited := visited.setIfInBounds t.address true
        if i.isWaiting then t :: p.close before after position fuel ts visited
        else
          p.close before after position fuel (i.follow before after position t ++ ts) visited

/-- A match: where it starts and stops, and the positions in its slots. -/
structure Match where
  start : Nat
  stop : Nat
  slots : List (Nat × Nat)

/-- Whether a thread waits to accept. -/
def Program.accepts (p : Program) (t : Thread) : Bool :=
  match p.code[t.address]? with
  | some .accept => true
  | _ => false

/-- The thread behind a character, if it may read it. -/
def Program.read (p : Program) (c : Char) (t : Thread) : Option Thread :=
  match p.code[t.address]? with
  | some (.set members next) => if members.contains c.toNat then some (t.goto next) else none
  | _ => none

/-- What comes of threads at a position: the best match so far, and the threads in front of it
that wait to read a character. A thread that starts here joins in while there is no match. -/
def Program.settle (p : Program) (before after : Option Char) (position : Nat)
    (threads : List Thread) (best : Option Match) : Option Match × List Thread :=
  let threads := if best.isSome then threads else threads ++ [⟨p.start, position, []⟩]
  let waiting := p.close before after position (threads.length + p.edges + 1) threads
    (Array.replicate p.code.size false)
  let best := match waiting.find? p.accepts with
    | some t => some ⟨t.start, position, t.slots⟩
    | none => best
  (best, waiting.takeWhile fun t => !p.accepts t)

/-- Follows threads through a text to the match that is preferred. -/
def Program.run (p : Program) :
    List Char → Option Char → Nat → List Thread → Option Match → Option Match
  | [], before, position, threads, best => (p.settle before none position threads best).1
  | c :: cs, before, position, threads, best =>
    let (best, waiting) := p.settle before (some c) position threads best
    if best.isSome ∧ waiting.isEmpty then best
    else p.run cs (some c) (position + 1) (waiting.filterMap (p.read c)) best

end Pattern

/-- A pattern that is ready to be searched with. -/
structure Pattern where
  text : String
  program : Pattern.Program

namespace Pattern

/-- The pattern with a text, if the text is well formed and no machine for it is too large. -/
def compile? (text : String) : Option Pattern :=
  match read text with
  | none => none
  | some (tree, _) =>
    match tree.expr? Modes.initial with
    | none => none
    | some (e, _) => if e.fits then some ⟨text, e.program⟩ else none

theorem text_of_compile? {text : String} {p : Pattern}
    (h : compile? text = some p) : p.text = text := by
  unfold compile? at h
  split at h
  · cases h
  · split at h
    · cases h
    · split at h
      · cases h
        rfl
      · cases h

/-- What compiles patterns. It says which texts are patterns and what they match. A pattern keeps the
text that it is made of. -/
structure Engine where
  compile? : String → Option Pattern
  text_of_compile? : ∀ {text : String} {p : Pattern}, compile? text = some p → p.text = text

/-- The engine that reads patterns as they are described here. -/
def Engine.standard : Engine := ⟨Pattern.compile?, Pattern.text_of_compile?⟩

/-- The first match in a text that has a certain character in front of it. -/
def find (p : Pattern) (before : Option Char) (rest : List Char) : Option Match :=
  p.program.run rest before 0 [] none

/-- The match with places in bytes, if it was found in a text with so many bytes in front of it. -/
def Match.inBytes (before : Nat) (rest : List Char) (m : Match) : Match :=
  let place (n : Nat) := before + Text.byteLength (rest.take n)
  ⟨place m.start, place m.stop, m.slots.map fun s => (s.1, place s.2)⟩

/-- The first match in a line that starts at a place or behind it. Places are counted in bytes. -/
def findAt (p : Pattern) (line : List Char) (place : Nat) : Option Match :=
  let rest := Text.dropBytes place line
  (p.find (Text.takeBytes place line).getLast? rest).map (Match.inBytes place rest)

theorem le_start_of_findAt {p : Pattern} {line : List Char} {place : Nat} {m : Match}
    (h : p.findAt line place = some m) : place ≤ m.start := by
  obtain ⟨_, -, rfl⟩ := Option.map_eq_some_iff.1 h
  exact Nat.le_add_right _ _

/-- The part of a match that a group took, if it took part; the match itself is group zero. -/
def Match.group (m : Match) (index : Nat) : Option (Nat × Nat) :=
  if index = 0 then some (m.start, m.stop)
  else
    match m.slots.lookup (2 * index), m.slots.lookup (2 * index + 1) with
    | some start, some stop => some (start, stop)
    | _, _ => none

end Pattern

end SurfaceBridge
