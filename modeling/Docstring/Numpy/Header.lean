-- The header lines of NumPy-style sections: a known title, underlined with dashes.
import Docstring.Document.Section

namespace Docstring.Numpy

/-- What a header opens. -/
inductive Header where
  | opens (kind : SectionKind)
  /-- A section that has no place in a document. -/
  | unsupported (title : Text)
deriving DecidableEq, Repr

/-- The titles of sections that have no place in a document. -/
def unsupportedTitles : List String :=
  ["Attributes", "Methods", "Other Parameters", "Receives", "Warns"]

/-- Three or more dashes and nothing else. -/
def isUnderline (line : Line) : Bool := 3 ≤ line.length && line.all (· == '-')

def headerOfTitle? (title : Text) : Option Header :=
  match SectionKind.ofTitle? title with
  | some kind => some (.opens kind)
  | none =>
    if unsupportedTitles.any fun known => known.toList = title then some (.unsupported title)
    else none

/-- Reads a title with the line below it, which must underline all of it. -/
def header? (title underline : Line) : Option Header :=
  if isUnderline underline && title.length ≤ underline.length then headerOfTitle? title else none

/-- Does a header stand at the start of these lines? -/
def atHeader : List Line → Bool
  | title :: underline :: _ => (header? title underline).isSome
  | _ => false

end Docstring.Numpy
