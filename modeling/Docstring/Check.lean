-- Reporting what is wrong with docstrings and assignments, without edits.
import Docstring.Fix.Assignment
import Docstring.Fix.Restyle

namespace Docstring.Check

/-! ## Docstrings -/

def reported : List Reason := [.paramUndocumented, .paramNotInSignature, .typeMismatch]

def finding (symbol : SymbolFact) (reason : Reason) (message : String) : Finding :=
  { rule := "DOC-" ++ reason.code, reason := reason, message := message,
    symbol := symbol.qualifiedName, line := symbol.line }

/-- What to say when an annotation promises a value of which no type is documented. -/
def missingReturnType? (d : Document) (symbol : SymbolFact) : Option String :=
  match symbol.returnHint with
  | none => none
  | some hint =>
    if Hint.isNoValue hint then none
    else
      let (doc, what) := if symbol.isGenerator then (d.yields, "yield") else (d.returns, "return")
      if doc.any fun doc => doc.type.isSome then none
      else
        some ("annotated as '" ++ hint.asString ++ "' but no " ++ what ++
          " type is documented")

/-- What is wrong with a document, compared with the signature. -/
def document (d : Document) (symbol : SymbolFact) : List Finding :=
  let enriched := enrich d symbol .reportOnly
  let drift := (enriched.warnings.filter fun w => w.reason ∈ reported).map fun w =>
    finding symbol w.reason w.message
  drift ++ (missingReturnType? enriched.document symbol).toList.map
    (finding symbol .missingReturnType)

/-- What is wrong with the docstring of a symbol. One whose style is not sure, or which does not
parse, gets one finding. -/
def docstring (source : Text) (options : ConvertOptions) (symbol : SymbolFact) : List Finding :=
  if !options.scope.includes symbol.kind then []
  else
    match symbol.docstring.bind (Literal.ofSource? source) with
    | none => []
    | some literal =>
      let found := Detection.ofText literal.body
      if found.hasConflicts || Binary64.less found.confidence options.minConfidence then
        [finding symbol .lowConfidence ("style is ambiguous: " ++ found.style.name ++
          " at confidence " ++ found.confidence.fixed 2)]
      else if found.style = .plain || !symbol.kind.isCallable then []
      else
        match found.style.parse literal.body with
        | .ok d => document d symbol
        | .error failure =>
          [finding symbol .parseFailure
            (found.style.name ++ " docstring: " ++ failure.error.message)]

/-- What is wrong with the docstrings of a file. -/
def docstrings (source : Text) (facts : FileFacts) (options : ConvertOptions) : List Finding :=
  facts.symbols.flatMap (docstring source options)

/-! ## Assignments -/

def isAmbiguous (shape : ValueShape) : Bool := shape = .emptyContainer || shape = .noneLiteral

/-- Is a missing annotation reported? Always for modules and classes, and elsewhere only for
ambiguous values. -/
def isReported (a : AssignmentFact) : Bool :=
  match a.scope with
  | .module | .classDef => true
  | .function | .attribute => isAmbiguous a.shape

/-- What is said about a missing annotation. -/
def annotationMessage (a : AssignmentFact) : String :=
  let manual :=
    "`" ++ a.target.asString ++ "` has no annotation and needs a manual one (" ++ a.shape.label ++
      ")"
  match Fix.infer? a.shape with
  | some hint =>
    if isAmbiguous a.shape then manual
    else
      "`" ++ a.target.asString ++ "` has no annotation; `" ++ hint.asString ++
        "` can be inferred"
  | none => manual

/-- The assignments of a file that have no annotation. -/
def annotations (facts : FileFacts) (scopes : AnnotationScopes) : List Finding :=
  (facts.assignments.filter fun a => Fix.isCandidate scopes a && isReported a).map fun a =>
    { rule := Fix.annotationRule a.scope, reason := .missingHint,
      message := annotationMessage a, symbol := a.target, line := a.line }

end Docstring.Check
