-- Greedy word wrapping of single lines and of blocks of prose.
import Docstring.Text.Indent

namespace Docstring.Text

/-! ## One line -/

/-- The narrowest width that is ever aimed at. -/
def minWrapWidth : Nat := 20

/-- Fills lines greedily. The words of the open line stand in `line`, of which `used` columns are
taken; a word that does not fit opens the next line, and all lines but the first have `rest`
columns. -/
def fill (lead : Text) (rest : Nat) (width : Nat) (line : Line) (used : Nat) :
    List Text → List Line
  | [] => [line]
  | word :: more =>
    if used + 1 + word.length > width then
      line :: fill lead rest rest (lead ++ word) (lead.length + word.length) more
    else
      fill lead rest width (line ++ ' ' :: word) (used + 1 + word.length) more

/-- Breaks a line at white space so that the first piece has at most `first` columns and the
others at most `rest`. A line that fits is left alone, its indentation is repeated on every
piece, and no word is broken. -/
def wrapLine (line : Line) (first rest : Nat) : List Line :=
  let first := max first minWrapWidth
  let rest := max rest minWrapWidth
  if line.length ≤ first then [line]
  else
    match words line with
    | [] => []
    | word :: more =>
      let lead := indentOf line
      fill lead rest first (lead ++ word) (lead.length + word.length) more

/-! ## Blocks -/

/-- Wraps the lines of a block; blank ones become empty. -/
def wrapLines (first rest : Nat) : List Line → List Line
  | [] => []
  | line :: lines =>
    (if isBlank line then [[]] else wrapLine (trimEnd line) first rest) ++
      wrapLines rest rest lines

/-- Wraps every line of a block: the first to `first` columns, the others to `rest`. -/
def wrapBlock (text : Text) (first rest : Nat) : List Line :=
  wrapLines first rest (splitLines text)

end Docstring.Text
