/-! Places in a pattern. -/

namespace ToolPolicy.Regex

/-- A line and a column, both counted from one. -/
structure Place where
  line : Nat
  column : Nat
deriving DecidableEq, Repr

namespace Place

def start : Place := ⟨1, 1⟩

/-- The place after a character. -/
def after (p : Place) (c : Char) : Place :=
  if c = '\n' then ⟨p.line + 1, 1⟩ else ⟨p.line, p.column + 1⟩

/-- Whether a place comes before another. -/
def isBefore (p q : Place) : Bool := p.line < q.line || (p.line == q.line && p.column < q.column)

end Place

/-- The part of a pattern between two places. -/
structure Span where
  first : Place
  past : Place
deriving DecidableEq, Repr

namespace Span

/-- Nothing, at a place. -/
def point (p : Place) : Span := ⟨p, p⟩

def isOneLine (s : Span) : Bool := s.first.line == s.past.line

/-- Whether a part begins before another, or else ends before it. -/
def isBefore (s t : Span) : Bool :=
  s.first.isBefore t.first || (s.first == t.first && s.past.isBefore t.past)

end Span

end ToolPolicy.Regex
