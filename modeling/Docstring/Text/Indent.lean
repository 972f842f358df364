-- Indentation of lines: width with tab stops of eight, expanding tabs, and removing margins.
import Docstring.Text.Basic

namespace Docstring.Text

/-! ## Width -/

/-- The spaces and tabs that a line starts with. -/
def indentOf (line : Line) : Text := line.takeWhile isIndent

/-- One character further, where a tab goes on to the next multiple of eight. -/
def advanceColumn (column : Nat) (c : Char) : Nat :=
  if c = '\t' then (column / 8 + 1) * 8 else column + 1

/-- The columns that a line is indented by. -/
def indentWidth (line : Line) : Nat := (indentOf line).foldl advanceColumn 0

def spaces (n : Nat) : Text := List.replicate n ' '

/-- Writes the tabs of a line's indentation as spaces; tabs further on are kept. -/
def expandTabs (line : Line) : Line :=
  if '\t' ∈ indentOf line then
    spaces (indentWidth line) ++ line.drop (indentOf line).length
  else line

/-! ## Margins -/

/-- Drops up to `columns` spaces from the start. -/
def stripColumns (columns : Nat) (line : Line) : Line :=
  match columns, line with
  | columns + 1, ' ' :: rest => stripColumns columns rest
  | _, line => line

/-- A line without `columns` columns of indentation; a blank one becomes empty. -/
def unindent (columns : Nat) (line : Line) : Line :=
  if isBlank line then [] else stripColumns columns line

/-- The least indentation of the lines that are not blank. -/
def commonIndent? (lines : List Line) : Option Nat :=
  ((lines.filter fun line => !isBlank line).map indentWidth).min?

def dedent (lines : List Line) : List Line :=
  lines.map (unindent ((commonIndent? lines).getD 0))

def dropBlankStart (lines : List Line) : List Line := lines.dropWhile isBlank

def dropBlankEnd (lines : List Line) : List Line := (lines.reverse.dropWhile isBlank).reverse

def trimBlankLines (lines : List Line) : List Line := dropBlankEnd (dropBlankStart lines)

/-- Puts `columns` spaces before every line that is not empty. -/
def indent (columns : Nat) (lines : List Line) : List Line :=
  lines.map fun line => if line.isEmpty then line else spaces columns ++ line

end Docstring.Text
