-- Annotating assignments whose type is certain from the value alone.
import Docstring.Outcome

namespace Docstring.Fix

def annotateName : String := "fix-annotations"

/-! ## Inference -/

def pathTypes : List String :=
  ["Path", "PurePath", "PosixPath", "WindowsPath", "PurePosixPath", "PureWindowsPath"]

/-- Is this the name of a path type? -/
def isPathType (name : Text) : Bool := pathTypes.any fun known => known.toList = name

/-- The annotation of a call result. The parent of a path is a path of the same type. -/
def inferCall? (callee : Text) (attributes : List Text) : Option Text :=
  let decimal := "Decimal".toList
  let (known, name) :=
    match Text.cutAtLast? (· == '.') callee with
    | none => (true, callee)
    | some (module, name) =>
      ((module = "pathlib".toList && isPathType name) ||
        (module = "decimal".toList && name = decimal), name)
  if !known then none
  else if isPathType name && attributes.all (· = "parent".toList) then some callee
  else if name = decimal && attributes.isEmpty then some callee
  else none

/-- The annotation that a value implies, when it is certain. -/
def infer? : ValueShape → Option Text
  | .intLiteral => some "int".toList
  | .floatLiteral => some "float".toList
  | .strLiteral => some "str".toList
  | .bytesLiteral => some "bytes".toList
  | .boolLiteral => some "bool".toList
  | .call callee attributes => inferCall? callee attributes
  | _ => none

/-! ## Fixing -/

/-- Is this an assignment that could be annotated? -/
def isCandidate (scopes : AnnotationScopes) (a : AssignmentFact) : Bool :=
  scopes.includes a.scope && a.isSimple && a.hint.isNone && a.value.isSome

/-- The rule that an assignment without annotation breaks. -/
def annotationRule (scope : AssignmentScope) : String := "PEP526-" ++ scope.name

def assignmentOutcome (a : AssignmentFact) (outcome : Outcome) (warnings : List Diagnostic) :
    SymbolOutcome :=
  { symbol := a.target, line := a.line, outcome := outcome, warnings := warnings }

/-- The edit that annotates an assignment. -/
def annotationEdit (file : Nat) (a : AssignmentFact) (hint : Text) : Edit :=
  { file := file, span := .point a.targetSpan.last, text := ": ".toList ++ hint,
    labels :=
      { operation := some annotateName, symbol := some a.target.asString,
        reason := some Reason.missingHint.code } }

/-- Annotates one assignment, or says that it needs to be done by hand. -/
def annotateOne (file : Nat) (source : Text) (a : AssignmentFact) : FixReport :=
  if Text.slice? source a.targetSpan.first a.targetSpan.last ≠ some a.target then
    let warning : Diagnostic := ⟨.unsafeLiteral, "target span does not match source"⟩
    { file := file, outcomes := [assignmentOutcome a .unsafeEdit [warning]] }
  else
    match infer? a.shape with
    | some hint =>
      { file := file, edits := [annotationEdit file a hint],
        outcomes := [assignmentOutcome a .applied []] }
    | none =>
      let message :=
        "cannot infer a type for `" ++ a.target.asString ++ "` from a " ++ a.shape.label
      { file := file,
        outcomes := [assignmentOutcome a .unsafeEdit [⟨.requiresManualHint, message⟩]],
        findings :=
          [{ rule := annotationRule a.scope, reason := .requiresManualHint,
              message := message, symbol := a.target, line := a.line }] }

/-- Annotates every assignment of a file whose type is certain. -/
def annotate (file : Nat) (source : Text) (facts : FileFacts) (scopes : AnnotationScopes) :
    FixReport :=
  (facts.assignments.filter (isCandidate scopes)).foldl
    (fun report a => report.append (annotateOne file source a)) { file := file }

end Docstring.Fix
