-- Normal form of docstring text: tabs expanded, trailing space and margin removed, no blank lines
-- at the ends.
import Docstring.Google.Header
import Docstring.Text.Indent

namespace Docstring

/-! ## Margin -/

/-- How far a line counts as indented. Below a header on the first line, everything that is not a
header itself counts one level less. -/
def marginOf (headed : Bool) (line : Line) : Nat :=
  if headed && !Google.isHeader (Text.trim line) then Text.indentWidth line - Google.bodyIndent
  else Text.indentWidth line

/-- The indentation that the lines after the first share; none when they are all blank. -/
def bodyMargin? : List Line → Option Nat
  | [] => none
  | first :: rest =>
    let headed := Google.isHeader (Text.trim first)
    ((rest.filter fun line => !Text.isBlank line).map (marginOf headed)).min?

/-! ## Normal lines -/

/-- Trims the first line and takes the margin off the others. -/
def stripMargin (margin : Nat) : List Line → List Line
  | [] => []
  | first :: rest => Text.trim first :: rest.map (Text.stripColumns margin)

def trimEmptyLines (lines : List Line) : List Line :=
  ((lines.reverse.dropWhile List.isEmpty).reverse).dropWhile List.isEmpty

/-- The lines of a docstring in normal form. -/
def normalLines (text : Text) : List Line :=
  let expanded := (Text.splitLines text).map fun line => Text.expandTabs (Text.trimEnd line)
  trimEmptyLines (stripMargin ((bodyMargin? expanded).getD 0) expanded)

def normalText (text : Text) : Text := Text.joinLines (normalLines text)

end Docstring
