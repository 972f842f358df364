-- Counts over the reports of a run.
import Docstring.Report.File

namespace Docstring

/-! ## Tallies -/

/-- How often each name occurs, by increasing name. -/
abbrev Tally := List (String × Nat)

namespace Tally

def add (tally : Tally) (name : String) : Tally :=
  match tally with
  | [] => [(name, 1)]
  | (known, n) :: rest =>
    if name = known then (known, n + 1) :: rest
    else if name < known then (name, 1) :: (known, n) :: rest
    else (known, n) :: add rest name

def ofNames (names : List String) : Tally := names.foldl add []

def count (tally : Tally) (name : String) : Nat := (tally.lookup name).getD 0

def json (tally : Tally) : Json := .object (tally.map fun entry => (entry.1, .natural entry.2))

end Tally

/-! ## Summaries -/

/-- Counts over the reports of a run. -/
structure Summary where
  filesScanned : Nat
  /-- Files with an edit. -/
  filesChanged : Nat
  filesFailed : Nat
  editsCount : Nat
  /-- How often each outcome occurs. -/
  outcomes : Tally
  /-- How often each reason occurs in outcomes, warnings and findings. -/
  reasons : Tally
deriving DecidableEq, Repr

namespace Summary

/-- The reasons that an outcome stands for: its own, and those of its warnings. -/
def reasonsOf (o : SymbolOutcome) : List Reason :=
  o.outcome.reason?.toList ++ o.warnings.map Diagnostic.reason

def reportReasons (r : FileReport) : List Reason :=
  r.outcomes.flatMap reasonsOf ++ r.findings.map Finding.reason

def ofReports (reports : List FileReport) : Summary :=
  { filesScanned := reports.length
    filesChanged := (reports.filter fun r => !r.edits.isEmpty).length
    filesFailed := (reports.filter fun r => r.error.isSome).length
    editsCount := (reports.flatMap fun r => r.edits).length
    outcomes := .ofNames (reports.flatMap fun r => r.outcomes.map fun o => o.outcome.name)
    reasons := .ofNames ((reports.flatMap reportReasons).map Reason.code) }

def outcomeCount (s : Summary) (outcome : Outcome) : Nat := s.outcomes.count outcome.name

def findingsCount (reports : List FileReport) : Nat := (reports.flatMap fun r => r.findings).length

def json (s : Summary) : Json :=
  .object
    [("files_scanned", .natural s.filesScanned), ("files_changed", .natural s.filesChanged),
      ("files_failed", .natural s.filesFailed), ("edits_count", .natural s.editsCount),
      ("outcomes", s.outcomes.json), ("reasons", s.reasons.json)]

end Summary

end Docstring
