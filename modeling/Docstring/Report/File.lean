-- What happened to one file, and its form in JSON.
import Docstring.Outcome
import Docstring.RunError

namespace Docstring

/-! ## Parts of a report -/

def Span.json (s : Span) : Json :=
  .object [("start", .natural s.first), ("end", .natural s.last)]

def Diagnostic.json (d : Diagnostic) : Json :=
  .object [("code", .text d.reason.code), ("message", .text d.message)]

def SymbolOutcome.json (o : SymbolOutcome) : Json :=
  .object
    ([("symbol", .text o.symbol.asString), ("line", .natural o.line),
        ("outcome", .text o.outcome.name)] ++
      Json.field? "detected_style" (o.style.map fun style => .text style.name) ++
      Json.field? "confidence" (o.confidence.map .number) ++
      Json.items? "warnings" (o.warnings.map Diagnostic.json))

def Finding.json (f : Finding) : Json :=
  .object
    [("rule", .text f.rule), ("code", .text f.reason.code), ("message", .text f.message),
      ("symbol", .text f.symbol.asString), ("line", .natural f.line)]

/-- An edit with the text that it replaces and its place. -/
structure ShownEdit where
  file : String
  span : Span
  oldText : Text
  newText : Text
  position : Position
deriving Repr

namespace ShownEdit

/-- An edit of a text. A span that the text does not have replaces nothing. -/
def ofEdit (file : String) (t : Text) (e : Edit) : ShownEdit :=
  { file := file
    span := e.span
    oldText := (Text.slice? t e.span.first e.span.last).getD []
    newText := e.text
    position := Text.position t e.span.first }

def json (e : ShownEdit) : Json :=
  .object
    [("file", .text e.file), ("span", e.span.json), ("old_text", .text e.oldText.asString),
      ("new_text", .text e.newText.asString), ("line", .natural e.position.line),
      ("col", .natural e.position.column)]

end ShownEdit

/-! ## Reports -/

/-- What happened to one file. -/
structure FileReport where
  file : String
  outcomes : List SymbolOutcome := []
  findings : List Finding := []
  edits : List ShownEdit := []
  /-- The unified diff of a run that writes nothing. -/
  diff : Option String := none
  isWritten : Bool := false
  error : Option ErrorInfo := none
deriving Repr

namespace FileReport

def failed (file : String) (e : RunError) : FileReport := { file := file, error := some e.info }

def json (r : FileReport) : Json :=
  .object
    ([("file", .text r.file), ("outcomes", .array (r.outcomes.map SymbolOutcome.json))] ++
      Json.items? "findings" (r.findings.map Finding.json) ++
      Json.items? "edits" (r.edits.map ShownEdit.json) ++
      Json.field? "diff" (r.diff.map .text) ++
      [("written", .bool r.isWritten)] ++
      Json.field? "error" (r.error.map ErrorInfo.json))

end FileReport

/-- The style of one docstring. -/
structure DetectedDocstring where
  symbol : Text
  line : Nat
  style : Style
  confidence : Binary64
  reasons : List String
  warnings : List Diagnostic := []
deriving Repr

def DetectedDocstring.json (d : DetectedDocstring) : Json :=
  .object
    ([("symbol", .text d.symbol.asString), ("line", .natural d.line),
        ("style", .text d.style.name), ("confidence", .number d.confidence),
        ("reasons", .array (d.reasons.map .text))] ++
      Json.items? "warnings" (d.warnings.map Diagnostic.json))

/-- The styles of the docstrings of one file. -/
structure DetectedFile where
  file : String
  docstrings : List DetectedDocstring := []
  error : Option ErrorInfo := none
deriving Repr

namespace DetectedFile

def failed (file : String) (e : RunError) : DetectedFile := { file := file, error := some e.info }

def json (d : DetectedFile) : Json :=
  .object
    ([("file", .text d.file), ("docstrings", .array (d.docstrings.map DetectedDocstring.json))] ++
      Json.field? "error" (d.error.map ErrorInfo.json))

end DetectedFile

end Docstring
