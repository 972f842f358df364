-- Pieces that the styles share: prose, entries with continuation lines, names, and type expressions.
import Docstring.Document.Basic
import Docstring.Text.Indent
import Docstring.Text.Letter

namespace Docstring

namespace Text

/-! ## Prose -/

/-- Lines as one text without the blank lines at the ends; none when all are blank. -/
def joinProse? (lines : List Line) : Option Text :=
  match trimBlankLines lines with
  | [] => none
  | kept => some (joinLines kept)

/-- Takes `columns` of indentation off lines that all have it, and else what they share. -/
def dedentBy (columns : Nat) (lines : List Line) : List Line :=
  if lines.all fun line => isBlank line || columns ≤ indentWidth line then
    lines.map (unindent columns)
  else dedent lines

/-- The description that starts beside an entry and goes on below it. -/
def description? (first : Text) (continuation : List Line) : Option Text :=
  let first := trim first
  joinProse? (if first.isEmpty then continuation else first :: continuation)

/-! ## Brackets -/

def isOpening (c : Char) : Bool := c == '(' || c == '[' || c == '{'

def isClosing (c : Char) : Bool := c == ')' || c == ']' || c == '}'

/-- The number of open brackets behind a character; below zero once more are closed than were opened.
A text of fewer than 2 ^ 31 characters keeps it within a signed word of 32 bits. -/
def depthAfter (depth : Int) (c : Char) : Int :=
  if isOpening c then depth + 1 else if isClosing c then depth - 1 else depth

/-- Cuts at the first colon that is outside brackets, `depth` of them being open. -/
def cutAtColonFrom? (depth : Int) : Text → Option (Text × Text)
  | [] => none
  | c :: rest =>
    if c = ':' ∧ depth ≤ 0 then some ([], rest)
    else (cutAtColonFrom? (depthAfter depth c) rest).map fun (left, right) => (c :: left, right)

/-- Cuts at the first colon outside brackets; it is in neither part. -/
def cutAtColon? (t : Text) : Option (Text × Text) := cutAtColonFrom? 0 t

/-! ## Names -/

/-- A letter or an underscore, then letters, digits and underscores. -/
def isIdentifier : Text → Bool
  | [] => false
  | c :: rest =>
    (isLetter c || c == '_') && (c :: rest).all fun d => isLetterOrDigit d || d == '_'

/-! ## Types -/

/-- Drops the spaces around the bar of a union. -/
def squeezeUnions : Text → Text
  | ' ' :: '|' :: ' ' :: rest => '|' :: squeezeUnions rest
  | c :: rest => c :: squeezeUnions rest
  | [] => []

/-- Balanced brackets and no white space outside them, `depth` brackets being open: never more than
the text has characters. -/
def isCompact (depth : Nat) : Text → Bool
  | [] => depth = 0
  | c :: rest =>
    if isOpening c then isCompact (depth + 1) rest
    else if isClosing c then depth ≠ 0 && isCompact (depth - 1) rest
    else !(isSpace c && depth = 0) && isCompact depth rest

def opensType (c : Char) : Bool := isLetter c || c == '_' || c == '\'' || c == '"'

/-- Does a text look like a type: balanced, opened by a name or a quote, and without white space
outside brackets but around the bar of a union? -/
def looksLikeType : Text → Bool
  | [] => false
  | c :: rest => isCompact 0 (squeezeUnions (c :: rest)) && opensType c

end Text

end Docstring
