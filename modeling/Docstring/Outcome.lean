-- What became of docstrings and assignments: outcomes, findings, and reports on one file.
import Docstring.Edit.Basic
import Docstring.Options

namespace Docstring

/-- How one attempt ended. -/
inductive Outcome where
  | applied
  | lowConfidence
  | parseFailure
  | alreadyCanonical
  | unsafeEdit
deriving DecidableEq, Repr

namespace Outcome

def name : Outcome → String
  | .applied => "applied"
  | .lowConfidence => "skipped_low_confidence"
  | .parseFailure => "skipped_parse_failure"
  | .alreadyCanonical => "skipped_already_canonical"
  | .unsafeEdit => "skipped_unsafe"

def reason? : Outcome → Option Reason
  | .applied => none
  | .lowConfidence => some .lowConfidence
  | .parseFailure => some .parseFailure
  | .alreadyCanonical => some .alreadyCanonical
  | .unsafeEdit => some .unsafeLiteral

def all : List Outcome :=
  [.applied, .lowConfidence, .parseFailure, .alreadyCanonical, .unsafeEdit]

def ofName? (name : String) : Option Outcome := all.find? fun outcome => outcome.name = name

end Outcome

/-- What became of one symbol or assignment. -/
structure SymbolOutcome where
  symbol : Text
  line : Nat
  outcome : Outcome
  style : Option Style := none
  confidence : Option Binary64 := none
  warnings : List Diagnostic := []
deriving DecidableEq, Repr

/-- Something to report without an edit. -/
structure Finding where
  rule : String
  reason : Reason
  message : String
  symbol : Text
  line : Nat
deriving DecidableEq, Repr

/-- Everything that an operation has to say about one file. -/
structure FixReport where
  /-- The number of the file within a run. -/
  file : Nat
  edits : List Edit := []
  outcomes : List SymbolOutcome := []
  findings : List Finding := []
deriving DecidableEq, Repr

namespace FixReport

/-- The number of outcomes that led to an edit. -/
def appliedCount (r : FixReport) : Nat :=
  (r.outcomes.filter fun o => o.outcome = .applied).length

/-- Two reports on the same file, one after the other. -/
def append (a b : FixReport) : FixReport :=
  { file := a.file, edits := a.edits ++ b.edits, outcomes := a.outcomes ++ b.outcomes,
    findings := a.findings ++ b.findings }

end FixReport

end Docstring
