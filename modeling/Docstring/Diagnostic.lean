-- Reason codes and the diagnostics that carry them.

namespace Docstring

/-- Why something was skipped, reported or warned about. -/
inductive Reason where
  | lowConfidence
  | parseFailure
  | unknownSection
  | unsupportedSection
  | malformedEntry
  | trailingProse
  | duplicateParameter
  | returnNameDropped
  | multipleReturns
  | typeMismatch
  | typeReplaced
  | typeMissing
  | paramNotInSignature
  | paramUndocumented
  | returnsMovedToYields
  | yieldsOnNonGenerator
  | unsafeLiteral
  | overlappingEdits
  | alreadyCanonical
  | requiresManualHint
  | missingHint
  | missingReturnType
  | missingDocstringSection
deriving DecidableEq, Repr

namespace Reason

def code : Reason → String
  | .lowConfidence => "low-confidence"
  | .parseFailure => "parse-failure"
  | .unknownSection => "unknown-section"
  | .unsupportedSection => "unsupported-section"
  | .malformedEntry => "malformed-entry"
  | .trailingProse => "trailing-prose"
  | .duplicateParameter => "duplicate-parameter"
  | .returnNameDropped => "return-name-dropped"
  | .multipleReturns => "multiple-returns"
  | .typeMismatch => "type-mismatch"
  | .typeReplaced => "type-replaced"
  | .typeMissing => "type-missing"
  | .paramNotInSignature => "param-not-in-signature"
  | .paramUndocumented => "param-undocumented"
  | .returnsMovedToYields => "returns-moved-to-yields"
  | .yieldsOnNonGenerator => "yields-on-non-generator"
  | .unsafeLiteral => "unsafe-literal"
  | .overlappingEdits => "overlapping-edits"
  | .alreadyCanonical => "already-canonical"
  | .requiresManualHint => "requires-manual-annotation"
  | .missingHint => "missing-annotation"
  | .missingReturnType => "missing-return-type"
  | .missingDocstringSection => "missing-docstring-section"

def all : List Reason :=
  [.lowConfidence, .parseFailure, .unknownSection, .unsupportedSection, .malformedEntry,
    .trailingProse, .duplicateParameter, .returnNameDropped, .multipleReturns, .typeMismatch,
    .typeReplaced, .typeMissing, .paramNotInSignature, .paramUndocumented, .returnsMovedToYields,
    .yieldsOnNonGenerator, .unsafeLiteral, .overlappingEdits, .alreadyCanonical,
    .requiresManualHint, .missingHint, .missingReturnType, .missingDocstringSection]

def ofCode? (code : String) : Option Reason := all.find? fun reason => reason.code = code

end Reason

/-- A reason and what a person is told about it. -/
structure Diagnostic where
  reason : Reason
  message : String
deriving DecidableEq, Repr

/-- The code and the message on one line. -/
def Diagnostic.display (d : Diagnostic) : String := d.reason.code ++ ": " ++ d.message

end Docstring
