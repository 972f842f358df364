-- Character classes: what counts as white space, and membership of a code point in a
-- sorted table of ranges.

namespace Docstring

/-! ## Code point ranges -/

/-- A closed range of code points. -/
abbrev CodeRange := Nat × Nat

/-- Membership in a table sorted by code point: only the first range that does not end before
the character can hold it. -/
def inRanges (table : List CodeRange) (c : Char) : Bool :=
  match table.find? (fun range => c.toNat ≤ range.2) with
  | some range => range.1 ≤ c.toNat
  | none => false

/-! ## White space -/

def whiteSpace : List CodeRange :=
  [(0x9, 0xD), (0x20, 0x20), (0x85, 0x85), (0xA0, 0xA0), (0x1680, 0x1680), (0x2000, 0x200A),
    (0x2028, 0x2029), (0x202F, 0x202F), (0x205F, 0x205F), (0x3000, 0x3000)]

def isSpace (c : Char) : Bool := inRanges whiteSpace c

/-- A space or a tab, the characters that indent a line. -/
def isIndent (c : Char) : Bool := c == ' ' || c == '\t'

/-! ## Case -/

/-- Lower case for the letters A to Z; every other character is left alone. -/
def asciiLower (c : Char) : Char := c.toLower

end Docstring
