-- Working through the files of a workspace. A file that fails is reported and the others go on.
import Docstring.Check
import Docstring.Edit.Hunk
import Docstring.Fix.Assignment
import Docstring.Fix.ReturnType
import Docstring.Python.Facts
import Docstring.Report.Response
import Docstring.Workspace

namespace Docstring

/-- A run that makes edits. -/
inductive Operation where
  | convert (target : Style) (source : StyleSource)
  | fixReturnTypes
  | annotate
deriving DecidableEq, Repr

namespace Operation

/-- The edits and outcomes for the text of a file. -/
def report (op : Operation) (config : Config) (file : Nat) (source : Text) (facts : FileFacts) :
    FixReport :=
  match op with
  | .convert target origin => Fix.restyle file source facts target origin config.convert
  | .fixReturnTypes => Fix.fixReturnTypes file source facts config.convert config.returnStyle
  | .annotate => Fix.annotate file source facts config.annotations

def response (op : Operation) (isApplied : Bool) (files : List FileReport) : Response :=
  match op with
  | .convert target origin => .converted target origin isApplied files
  | .fixReturnTypes => .fixed Fix.returnTypeName isApplied files
  | .annotate => .fixed Fix.annotateName isApplied files

end Operation

namespace Workspace

/-! ## Reading -/

def source (w : Workspace) (p : Path) : Except RunError Text :=
  match w.read p with
  | .ok t => .ok t
  | .error .notFound => .error (.fileNotFound p.asString)
  | .error e =>
    .error (.invalidArguments ("cannot read " ++ p.asString ++ ": " ++ e.message)
      (some (.object [("file", .text p.asString)])))

def facts (p : Path) (t : Text) : Except RunError FileFacts :=
  match Python.scan t with
  | .ok facts => .ok facts
  | .error e => .error (.malformedSource p.asString e.line e.message)

def scan (w : Workspace) (p : Path) : Except RunError (Text × FileFacts) := do
  let t ← w.source p
  return (t, ← facts p t)

/-! ## Edits -/

/-- What a file's report says about its edits. -/
def fileReport (p : Path) (t : Text) (fix : FixReport) : FileReport :=
  { file := p.asString
    outcomes := fix.outcomes
    findings := fix.findings
    edits := fix.edits.map (ShownEdit.ofEdit p.asString t) }

def writeEdits (w : Workspace) (p : Path) (t : Text) (edits : List Edit) :
    Except RunError Workspace :=
  match Edit.applyAll t edits with
  | .error e => .error (.applyFailed e.message (some p.asString))
  | .ok new =>
    match w.write p (encode new) with
    | .ok next => .ok next
    | .error e => .error (.applyFailed e.message (some p.asString))

def diffOf (p : Path) (t : Text) (edits : List Edit) : String :=
  Hunk.unifiedDiff p.asString ((Hunk.collect? t edits).getD [])

/-- Works on one file: its edits are written, or shown as a diff. -/
def editFile (w : Workspace) (op : Operation) (config : Config) (isApplied : Bool) (file : Nat)
    (p : Path) : Workspace × FileReport :=
  match w.scan p with
  | .error e => (w, .failed p.asString e)
  | .ok (t, facts) =>
    let fix := op.report config file t facts
    let report := fileReport p t fix
    if fix.edits.isEmpty then (w, report)
    else if isApplied then
      match w.writeEdits p t fix.edits with
      | .ok next => (next, { report with isWritten := true })
      | .error e => (w, { report with error := some e.info })
    else (w, { report with diff := some (diffOf p t fix.edits) })

/-- Works on files one after the other; they are numbered from `file` on. -/
def editFiles (w : Workspace) (op : Operation) (config : Config) (isApplied : Bool) (file : Nat) :
    List Path → Workspace × List FileReport
  | [] => (w, [])
  | p :: rest =>
    let (next, report) := w.editFile op config isApplied file p
    let (last, reports) := next.editFiles op config isApplied (file + 1) rest
    (last, report :: reports)

def edit (w : Workspace) (op : Operation) (config : Config) (isApplied : Bool) (files : List Path) :
    Workspace × Response :=
  let (next, reports) := w.editFiles op config isApplied 0 files
  (next, op.response isApplied reports)

/-! ## Checks -/

/-- Does a finding come before another, by line and then by rule, or at the same place? -/
def findingAtMost (a b : Finding) : Bool :=
  a.line < b.line || (a.line = b.line && !(b.rule < a.rule))

def checkFile (w : Workspace) (config : Config) (p : Path) : FileReport :=
  match w.scan p with
  | .error e => .failed p.asString e
  | .ok (t, facts) =>
    let findings :=
      Check.docstrings t facts config.convert ++ Check.annotations facts config.annotations
    { file := p.asString, findings := findings.mergeSort findingAtMost }

def check (w : Workspace) (config : Config) (files : List Path) : Response :=
  .checked (files.map (w.checkFile config))

/-! ## Detection -/

def detectionWarnings (found : Detection) (body : Text) : List Diagnostic :=
  let conflicts : List Diagnostic :=
    if found.hasConflicts then [⟨.lowConfidence, "signatures of more than one style"⟩] else []
  let failures : List Diagnostic :=
    if found.style = .plain then []
    else
      match found.style.parse body with
      | .ok _ => []
      | .error failure => [⟨.parseFailure, failure.error.message⟩]
  conflicts ++ failures

/-- The style of a symbol's docstring; none without a plain one. -/
def detectSymbol? (t : Text) (symbol : SymbolFact) : Option DetectedDocstring := do
  let site ← symbol.docstring
  let literal ← Literal.ofSource? t site
  let found := Detection.ofText literal.body
  return {
    symbol := symbol.qualifiedName
    line := symbol.line
    style := found.style
    confidence := found.confidence
    reasons := found.reasons
    warnings := detectionWarnings found literal.body }

/-- The styles of the docstrings in one file. -/
def detectFile (w : Workspace) (p : Path) : DetectedFile :=
  match w.scan p with
  | .error e => .failed p.asString e
  | .ok (t, facts) =>
    { file := p.asString, docstrings := facts.symbols.filterMap (detectSymbol? t) }

def detect (w : Workspace) (files : List Path) : Response := .detected (files.map w.detectFile)

end Workspace

end Docstring
