import SurfaceBridge.Rpc.Frame

set_option autoImplicit false

/-! # Lines and connections

Each connection that opens has an outgoing line, on which frames are queued. Lines are kept in
the order in which their connections opened, and a line keeps all frames that it has accepted. A
line accepts frames as long as somebody reads it. Who sends does not know when the reader will
be gone, and it may be gone between any two frames, so a line has a room: the number of frames
that it will still accept.

A `Connection` is the handle to a line. Connections have ids, but nothing keeps two of them from
having the same one, so the handle names its line by position.
-/

namespace SurfaceBridge

namespace Rpc

/-- An outgoing line: the id of its connection, the frames it has accepted with the oldest
first, and how many more it will accept; without a number there is no end. -/
structure Line where
  id : Nat
  frames : List Frame
  room : Option Nat

namespace Line

/-- Whether a line accepts a frame. -/
def isRead (line : Line) : Bool :=
  match line.room with
  | some 0 => false
  | _ => true

/-- A line after one more frame. -/
def accept (f : Frame) (line : Line) : Line :=
  { line with frames := line.frames ++ [f], room := line.room.map (· - 1) }

end Line

/-- The handle to the line of an open connection. -/
structure Connection where
  id : Nat
  line : Nat
deriving DecidableEq

/-- All lines, in the order in which their connections opened. -/
abbrev Lines := List Line

namespace Lines

/-- Adds the line of a new connection, with room for so many frames. -/
def openLine (id : Nat) (room : Option Nat) (lines : Lines) : Connection × Lines :=
  (⟨id, lines.length⟩, lines ++ [⟨id, [], room⟩])

/-- Adds the line of a new connection, which is read for ever or not at all. -/
def addLine (id : Nat) (isRead : Bool) (lines : Lines) : Connection × Lines :=
  lines.openLine id (if isRead then none else some 0)

/-- Queues a frame on the line of a connection; nothing if nobody reads it. -/
def send (c : Connection) (f : Frame) (lines : Lines) : Option Lines :=
  match lines[c.line]? with
  | none => none
  | some line => if line.isRead then some (lines.set c.line (line.accept f)) else none

/-- Nobody reads the lines of connections with this id any more. -/
def stopReading (id : Nat) (lines : Lines) : Lines :=
  lines.map fun line => if line.id = id then { line with room := some 0 } else line

end Lines

end Rpc

end SurfaceBridge
