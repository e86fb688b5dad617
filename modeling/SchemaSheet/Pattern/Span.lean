import SchemaSheet.Text.Basic

/-! Positions in the text of a pattern and the spans between them. -/

namespace SchemaSheet.Pattern

/-- A line and a column in it, counted in characters; both start at one. -/
structure Position where
  line : Nat := 1
  column : Nat := 1
  deriving DecidableEq, Repr

namespace Position

def after (p : Position) (c : Char) : Position :=
  if c = '\n' then ⟨p.line + 1, 1⟩ else ⟨p.line, p.column + 1⟩

def isBefore (p q : Position) : Bool :=
  p.line < q.line || p.line == q.line && p.column < q.column

end Position

structure Span where
  start : Position
  stop : Position
  deriving DecidableEq, Repr

namespace Span

def empty (p : Position) : Span := ⟨p, p⟩

def ofChar (p : Position) (c : Char) : Span := ⟨p, p.after c⟩

def isOneLine (s : Span) : Bool := s.start.line == s.stop.line

/-- Whether a span comes before another: the one that starts first, or else ends first. -/
def isBefore (s t : Span) : Bool :=
  s.start.isBefore t.start || s.start == t.start && s.stop.isBefore t.stop

/-- How many marks stand under a span; an empty one gets one. -/
def width (s : Span) : Nat := max 1 (s.stop.column - s.start.column)

end Span

end SchemaSheet.Pattern
