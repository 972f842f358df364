-- The one document that a run prints.
import Docstring.Report.Summary

namespace Docstring

/-- What a run answers. -/
inductive Response where
  | converted (target : Style) (source : StyleSource) (isApplied : Bool) (files : List FileReport)
  | fixed (operation : String) (isApplied : Bool) (files : List FileReport)
  | checked (files : List FileReport)
  | detected (files : List DetectedFile)
  | failed (error : RunError)
deriving Repr

namespace Response

/-- The version of the form of all responses. -/
def schemaVersion : String := "1"

/-- The reports of the files, if the run makes any. -/
def files : Response → List FileReport
  | .converted _ _ _ files | .fixed _ _ files | .checked files => files
  | .detected _ | .failed _ => []

def status : Response → String
  | .converted _ _ _ _ | .fixed _ _ _ | .detected _ => "ok"
  | .checked files => if Summary.findingsCount files = 0 then "ok" else "findings"
  | .failed _ => "error"

def filesAndSummary (files : List FileReport) : List (String × Json) :=
  [("files", .array (files.map FileReport.json)), ("summary", (Summary.ofReports files).json)]

def styleTally (files : List DetectedFile) : Tally :=
  .ofNames (files.flatMap fun f => f.docstrings.map fun d => d.style.name)

/-- The fields that depend on the kind of run. -/
def fields : Response → List (String × Json)
  | .converted target source isApplied files =>
    [("target_style", .text target.name), ("from_style", .text source.name),
        ("applied", .bool isApplied)] ++ filesAndSummary files
  | .fixed operation isApplied files =>
    [("operation", .text operation), ("applied", .bool isApplied)] ++ filesAndSummary files
  | .checked files =>
    ("findings_count", .natural (Summary.findingsCount files)) :: filesAndSummary files
  | .detected files =>
    [("files", .array (files.map DetectedFile.json)), ("styles", (styleTally files).json)]
  | .failed error => [("error", error.info.json)]

def json (r : Response) : Json :=
  .object ([("status", .text r.status), ("schema_version", .text schemaVersion)] ++ r.fields)

def document (r : Response) : String := r.json.document

end Response

end Docstring
