import SurfaceBridge.Highlight.TokenClass
import SurfaceBridge.Pattern.Search
import SurfaceBridge.Text.Lines

set_option autoImplicit false

/-! # Classifiers

A classifier is an ordered list of rules. Each rule finds its matches with a pattern and gives
them, or one group of them, a class. A text is classified line by line: from each place the
match that starts first is taken, of several that start there the one of the earliest rule, and
the next place is the end of the whole match. Empty matches do not count.

Matches have places in bytes within their line. Spans have places in characters within the text.
-/

namespace SurfaceBridge

/-- A span of text with a class. It goes from `start` to before `stop`, in characters. -/
structure TokenSpan where
  start : Nat
  stop : Nat
  kind : TokenClass
deriving DecidableEq

/-- A rule: a pattern, the class of its matches, and the group that gets the class if it is not
the whole match. -/
structure Rule where
  pattern : Pattern
  kind : TokenClass
  group : Option Nat

/-- A match of a rule that is not empty, and the part of it that gets the class. -/
structure Finding where
  start : Nat
  stop : Nat
  part : Option (Nat × Nat)
  start_lt_stop : start < stop

/-- The place behind the character at a place of a line; at the end of the line, a place that is
not in the line any more. -/
def nextPlace (line : List Char) (place : Nat) : Nat :=
  match Text.dropBytes place line with
  | [] => Text.byteLength line + 1
  | c :: _ => place + c.utf8Size

theorem lt_nextPlace {line : List Char} {n place : Nat} (inside : n ≤ Text.byteLength line)
    (h : n ≤ place) : n < nextPlace line place := by
  unfold nextPlace
  split
  · omega
  · rename_i c _ _
    have := c.utf8Size_pos
    omega

namespace Rule

/-- The rule that gives the matches of a pattern a class. -/
def compile? (engine : Pattern.Engine) (pattern : String) (kind : TokenClass)
    (group : Option Nat) : Option Rule :=
  (engine.compile? pattern).map fun p => ⟨p, kind, group⟩

/-- The first match in a line that is not empty and starts at a place or behind it. Behind an
empty match the search goes on after one more character. -/
def findAt (r : Rule) (line : List Char) (place : Nat) : Option Finding :=
  if _h : place ≤ Text.byteLength line then
    match _found : r.pattern.findAt line place with
    | none => none
    | some m =>
      if h : m.start < m.stop then some ⟨m.start, m.stop, m.group (r.group.getD 0), h⟩
      else r.findAt line (nextPlace line m.start)
  else none
termination_by Text.byteLength line + 1 - place
decreasing_by
  have := lt_nextPlace _h (Pattern.le_start_of_findAt _found)
  omega

theorem le_start_of_findAt {r : Rule} {line : List Char} {place : Nat} {f : Finding}
    (h : r.findAt line place = some f) : place ≤ f.start := by
  fun_induction r.findAt line place with
  | case1 => cases h
  | case2 place _ m hm hlt =>
    cases h
    exact Pattern.le_start_of_findAt hm
  | case3 place inside m hm _ ih =>
    have := lt_nextPlace inside (Pattern.le_start_of_findAt hm)
    have := ih h
    omega
  | case4 => cases h

end Rule

/-- An ordered list of rules. -/
structure Classifier where
  rules : List Rule

namespace Classifier

/-- The classifier of a table of patterns and classes. Empty patterns are left out. The first
pattern that does not compile is an error. -/
def ofTable (engine : Pattern.Engine) : List (String × TokenClass) → Except String Classifier
  | [] => .ok ⟨[]⟩
  | (pattern, kind) :: rows =>
    if pattern.isEmpty then ofTable engine rows
    else
      match Rule.compile? engine pattern kind none with
      | none => .error pattern
      | some rule => (ofTable engine rows).map fun c => ⟨rule :: c.rules⟩

/-- The patterns and classes of the rules. -/
def table (c : Classifier) : List (String × TokenClass) :=
  c.rules.map fun r => (r.pattern.text, r.kind)

/-- The match that starts first from a place of a line on, with its class; the earliest rule wins
a tie. -/
def leftmost (line : List Char) (place : Nat) : List Rule → Option (Finding × TokenClass)
  | [] => none
  | r :: rs =>
    match r.findAt line place, leftmost line place rs with
    | none, other => other
    | some f, none => some (f, r.kind)
    | some f, some (g, kind) => if g.start < f.start then some (g, kind) else some (f, r.kind)

theorem le_start_of_leftmost {line : List Char} {place : Nat} {rules : List Rule} {f : Finding}
    {kind : TokenClass} (h : leftmost line place rules = some (f, kind)) : place ≤ f.start := by
  induction rules generalizing f kind with
  | nil => cases h
  | cons r rs ih =>
    rw [leftmost] at h
    split at h
    · exact ih h
    · rename_i hf _
      cases h
      exact Rule.le_start_of_findAt hf
    · rename_i hf hg
      split at h
      · cases h
        exact ih hg
      · cases h
        exact Rule.le_start_of_findAt hf

/-- The span of the part of a match that gets a class, if it is not empty. The line has `offset`
characters in front of it. -/
def spanOf (offset : Nat) (line : List Char) (kind : TokenClass) (part : Option (Nat × Nat)) :
    List TokenSpan :=
  match part with
  | none => []
  | some (start, stop) =>
    if start < stop ∧ stop ≤ Text.byteLength line then
      let column := (Text.takeBytes start line).length
      let width := (Text.takeBytes (stop - start) (Text.dropBytes start line)).length
      [⟨offset + column, offset + (column + width), kind⟩]
    else []

/-- The spans of a line from a place on. The line has `offset` characters in front of it. -/
def classifyFrom (rules : List Rule) (offset : Nat) (line : List Char) (place : Nat) :
    List TokenSpan :=
  if _h : place < Text.byteLength line then
    match _found : leftmost line place rules with
    | none => []
    | some (f, kind) => spanOf offset line kind f.part ++ classifyFrom rules offset line f.stop
  else []
termination_by Text.byteLength line - place
decreasing_by
  have := le_start_of_leftmost _found
  have := f.start_lt_stop
  omega

/-- The spans of lines, the first of which has `offset` characters in front of it. -/
def classifyLines (rules : List Rule) : Nat → List (List Char) → List TokenSpan
  | _, [] => []
  | offset, line :: lines =>
    classifyFrom rules offset line 0 ++ classifyLines rules (offset + line.length + 1) lines

/-- The spans of a text. -/
def classify (c : Classifier) (text : String) : List TokenSpan :=
  classifyLines c.rules 0 (Text.lines text.toList)

end Classifier

end SurfaceBridge
