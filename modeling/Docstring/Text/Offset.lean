-- Byte offsets into the UTF-8 form of a text: cutting at them, and the lines and columns that
-- they stand for.
import Docstring.Text.Basic

namespace Docstring

/-- A place in a text: both numbers count from one, and columns count characters. They fit words of 32
bits in every text of fewer than 2 ^ 32 - 1 bytes. -/
structure Position where
  line : Nat
  column : Nat
deriving DecidableEq, Repr

namespace Position

def start : Position := ⟨1, 1⟩

def advance (p : Position) (c : Char) : Position :=
  if c = '\n' then ⟨p.line + 1, 1⟩ else ⟨p.line, p.column + 1⟩

end Position

namespace Text

/-! ## Cutting -/

def byteLength (t : Text) : Nat := t.foldr (fun c bytes => c.utf8Size + bytes) 0

/-- The number of characters in the first `bytes` bytes, after `passed` characters before them.
None when the bytes end inside a character or the text is shorter. -/
def countChars? (passed : Nat) : Text → Nat → Option Nat
  | _, 0 => some passed
  | [], _ + 1 => none
  | c :: rest, bytes + 1 =>
    if c.utf8Size ≤ bytes + 1 then countChars? (passed + 1) rest (bytes + 1 - c.utf8Size)
    else none

/-- Cuts a text at a byte offset, which must stand between two characters. -/
def cut? (t : Text) (offset : Nat) : Option (Text × Text) :=
  (countChars? 0 t offset).map fun n => (t.take n, t.drop n)

/-- Is the offset inside the text and between two characters? -/
def isBoundary (t : Text) (offset : Nat) : Bool := (cut? t offset).isSome

def slice? (t : Text) (first last : Nat) : Option Text :=
  if first ≤ last then
    match cut? t first with
    | some (_, rest) => (cut? rest (last - first)).map Prod.fst
    | none => none
  else none

/-! ## Lines and columns -/

/-- Walks over characters until `offset` bytes are passed. -/
def walk (p : Position) : Text → Nat → Position
  | [], _ => p
  | c :: rest, offset =>
    if offset = 0 then p else walk (p.advance c) rest (offset - c.utf8Size)

/-- The place of a byte offset. One inside a character stands for the place after it. -/
def position (t : Text) (offset : Nat) : Position := walk .start t offset

/-- The lines of the first and the last byte of a span. -/
def lineRange (t : Text) (first last : Nat) : Nat × Nat :=
  ((position t first).line, (position t (max (last - 1) first)).line)

/-- Where the line that holds an offset starts; none inside a character. -/
def lineStart? (t : Text) (offset : Nat) : Option Nat :=
  (cut? t (min offset (byteLength t))).map fun (left, _) =>
    byteLength left - byteLength (left.reverse.takeWhile (· ≠ '\n'))

/-- Where the line that holds an offset ends, its newline included; none inside a character. -/
def lineEnd? (t : Text) (offset : Nat) : Option Nat :=
  let offset := min offset (byteLength t)
  (cut? t offset).map fun (_, right) =>
    let tail := right.takeWhile (· ≠ '\n')
    offset + byteLength tail + (if tail.length < right.length then 1 else 0)

end Text

end Docstring
