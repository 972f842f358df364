-- Documents as JSON.
import Docstring.Document.Basic
import Docstring.Report.File

namespace Docstring

/-- A text that may be missing, as a field. -/
def textField? (name : String) (t : Option Text) : List (String × Json) :=
  Json.field? name (t.map fun t => .text t.asString)

def textsJson (texts : List Text) : Json := .array (texts.map fun t => .text t.asString)

def Parameter.json (p : Parameter) : Json :=
  .object
    ([("name", .text p.name.asString)] ++ textField? "type" p.type ++
      textField? "default" p.default ++ textField? "description" p.description ++
      [("kind", .text p.kind.name)])

def ReturnDoc.json (r : ReturnDoc) : Json :=
  .object (textField? "type" r.type ++ textField? "description" r.description)

def RaiseEntry.json (r : RaiseEntry) : Json :=
  .object
    ([("exception_type", .text r.exception.asString)] ++ textField? "description" r.description)

def SectionSpan.json (s : SectionSpan) : Json :=
  .object
    [("kind", .text s.kind.name), ("start_line", .natural s.first), ("end_line", .natural s.last)]

/-- What was noticed while reading, as JSON. -/
def Metadata.json (m : Metadata) : Json :=
  .object
    (Json.field? "detected_style" (m.style.map fun style => .text style.name) ++
      Json.field? "detection_confidence" (m.confidence.map .number) ++
      Json.items? "parse_warnings" (m.warnings.map Diagnostic.json) ++
      Json.items? "sections" (m.sections.map SectionSpan.json))

def Document.json (d : Document) : Json :=
  .object
    ([("summary", .text d.summary.asString)] ++ textField? "extended" d.extended ++
      [("parameters", .array (d.parameters.map Parameter.json))] ++
      Json.field? "returns" (d.returns.map ReturnDoc.json) ++
      Json.field? "yields" (d.yields.map ReturnDoc.json) ++
      [("raises", .array (d.raises.map RaiseEntry.json)),
        ("examples", .array (d.examples.map fun e => .object [("text", .text e.asString)])),
        ("notes", textsJson d.notes), ("warnings", textsJson d.warnings),
        ("see_also", textsJson d.seeAlso), ("references", textsJson d.references),
        ("metadata", d.metadata.json)])

end Docstring
