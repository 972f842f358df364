-- The start of every docstring: a summary, prose, and then the marked part.
import Docstring.Document.Entry

namespace Docstring

/-- A docstring cut where its first mark stands. -/
structure Head where
  summary : Text
  extended : Option Text
  /-- The number of lines before the marked part. -/
  length : Nat
  /-- The marked part. -/
  rest : List Line
deriving DecidableEq, Repr

namespace Head

/-- Cuts off the lines before the first suffix of which a mark holds. -/
def spanUntil (mark : List Line → Bool) : List Line → List Line × List Line
  | [] => ([], [])
  | line :: rest =>
    if mark (line :: rest) then ([], line :: rest)
    else
      let (before, after) := spanUntil mark rest
      (line :: before, after)

/-- Cuts lines into summary, prose and the rest. The summary ends at a blank line or where
`endsSummary` holds, the prose where `endsProse` does. -/
def cut (endsSummary endsProse : List Line → Bool) (lines : List Line) : Head :=
  let blankOrMark := fun tail => ((tail.head?.map Text.isBlank).getD false) || endsSummary tail
  let (summary, afterSummary) := spanUntil blankOrMark lines
  let (prose, rest) := spanUntil endsProse afterSummary
  { summary := Text.joinLines summary
    extended := Text.joinProse? prose
    length := summary.length + prose.length
    rest := rest }

def document (h : Head) (style : Style) : Document :=
  { summary := h.summary, extended := h.extended, metadata := { style := some style } }

end Head

namespace Document

/-- Adds a parameter and warns when its name is not new. -/
def addParameter (d : Document) (p : Parameter) : Document :=
  let (next, isNew) := d.pushParameter p
  if isNew then next
  else
    next.warn
      ⟨.duplicateParameter, "parameter '" ++ p.name.asString ++ "' documented more than once"⟩

/-- Adds an example block, if there is one. -/
def addExample (d : Document) (text : Option Text) : Document :=
  { d with examples := d.examples ++ text.toList }

/-- Adds a free text, if there is one. -/
def addFreeText? (d : Document) (kind : SectionKind) : Option Text → Document
  | some text => d.addFreeText text kind
  | none => d

end Document

end Docstring
