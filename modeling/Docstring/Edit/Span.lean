-- Byte spans: half-open ranges of a file's text.

namespace Docstring

/-- The bytes from `first` up to, but not including, `last`. A well-formed span has
`first ≤ last`; one that a caller hands over may not be. -/
structure Span where
  first : Nat
  last : Nat
deriving DecidableEq, Repr

namespace Span

def make? (first last : Nat) : Option Span := if first ≤ last then some ⟨first, last⟩ else none

/-- The empty span at an offset, where text is inserted. -/
def point (offset : Nat) : Span := ⟨offset, offset⟩

def length (s : Span) : Nat := s.last - s.first

def isEmpty (s : Span) : Bool := s.first = s.last

/-- Do two spans get in each other's way? Two insertions at one offset do, since their order
would be open; an insertion at the border of another span does not. -/
def overlaps (a b : Span) : Bool :=
  if a.isEmpty && b.isEmpty then a.first = b.first
  else if a.isEmpty then b.first < a.first && a.first < b.last
  else if b.isEmpty then a.first < b.first && b.first < a.last
  else a.first < b.last && b.first < a.last

/-- Does the first span hold the second one? -/
def contains (a b : Span) : Bool := a.first ≤ b.first && b.last ≤ a.last

/-- The span in interval notation. -/
def display (s : Span) : String :=
  "[" ++ Nat.repr s.first ++ ", " ++ Nat.repr s.last ++ ")"

end Span

end Docstring
