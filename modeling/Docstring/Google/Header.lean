-- The header lines of Google-style sections: a known title and a colon, at the first column.
import Docstring.Document.Section

namespace Docstring.Google

/-- What a header line opens. -/
inductive Header where
  /-- A section; `keywordOnly` marks the titles whose parameters are keyword-only. -/
  | opens (kind : SectionKind) (keywordOnly : Bool)
  /-- A section that has no place in a document. -/
  | unsupported (title : Text)
deriving DecidableEq, Repr

/-- The titles of sections that have no place in a document. -/
def unsupportedTitles : List String :=
  ["Attributes", "Methods", "Todo", "Other Parameters", "Other Params"]

def headerOfTitle? (title : Text) : Option Header :=
  match SectionKind.ofTitle? title with
  | some kind => some (.opens kind (Text.startsWith title "Keyword".toList))
  | none =>
    if unsupportedTitles.any fun known => known.toList = title then some (.unsupported title)
    else none

def header? (line : Line) : Option Header :=
  if line.getLast? = some ':' then headerOfTitle? line.dropLast else none

/-- Does a line open a section, supported or not? -/
def isHeader (line : Line) : Bool := (header? line).isSome

/-- The indentation of section bodies and of the continuation of entries. -/
def bodyIndent : Nat := 4

end Docstring.Google
