-- Carrying out a command in a workspace.
import Docstring.Batch
import Docstring.CommandLine

namespace Docstring

/-- The end of a run: what is printed, if anything, and the exit code. -/
structure RunResult where
  response : Option Response
  exitCode : Nat

namespace RunResult

def failed (e : RunError) : RunResult := ⟨some (.failed e), e.exitCode⟩

def done (r : Response) : RunResult := ⟨some r, 0⟩

/-- A check, which can be strict about findings. -/
def checked (isStrict : Bool) (r : Response) : RunResult :=
  let count := Summary.findingsCount r.files
  if isStrict && 0 < count then ⟨some r, (RunError.findingsPresent count).exitCode⟩ else done r

end RunResult

namespace ConvertFlags

def isConfidence (x : Binary64) : Bool := Binary64.zero.atMost x && x.atMost .one

/-- The configuration with the flags that are given. -/
def override (flags : ConvertFlags) (config : Config) : Except RunError Config :=
  let options := config.convert
  let options :=
    { options with
      minConfidence := flags.minConfidence.getD options.minConfidence
      unsafeMode := flags.unsafeMode || options.unsafeMode
      types := flags.types.getD options.types
      maxLineWidth := flags.maxLineWidth.getD options.maxLineWidth
      scope := flags.scope.getD options.scope }
  match flags.minConfidence.filter fun x => !isConfidence x with
  | some x =>
    .error (.invalidArguments
      ("--min-confidence must be between 0 and 1, got " ++ x.positional) none)
  | none => .ok { config with convert := options }

def targetStyle (flags : ConvertFlags) (config : Config) : Except RunError Style :=
  match flags.target.or config.target with
  | some style => .ok style
  | none =>
    .error (.invalidArguments
      "no target style: pass --to or set target_style in configuration" none)

end ConvertFlags

namespace Workspace

/-- The configuration of a run: the file that is named, or the one that is found from the working
directory upward, or the defaults. -/
def configOf (w : Workspace) (named : Option Path) : Except RunError Config := do
  match named with
  | some p => w.loadConfig p
  | none => return ((← w.discoverConfig w.directory).map Prod.snd).getD {}

def perform (w : Workspace) (i : Invocation) : Except RunError (Workspace × RunResult) := do
  let config ← w.configOf i.config
  let done := fun result : Workspace × Response => (result.1, RunResult.done result.2)
  match i.action with
  | .convert flags isApplied =>
    let config ← flags.override config
    let target ← flags.targetStyle config
    let files ← w.collect config.exclude i.paths
    return done (w.edit (.convert target flags.source) config isApplied files)
  | .fixReturnTypes isApplied =>
    let files ← w.collect config.exclude i.paths
    return done (w.edit .fixReturnTypes config isApplied files)
  | .annotate isApplied =>
    let files ← w.collect config.exclude i.paths
    return done (w.edit .annotate config isApplied files)
  | .check isStrict =>
    let files ← w.collect config.exclude i.paths
    return (w, .checked isStrict (w.check config files))
  | .detect =>
    let files ← w.collect config.exclude i.paths
    return (w, .done (w.detect files))

/-- Runs a command line. One that is refused prints no response. -/
def run (w : Workspace) (words : List Text) : Workspace × RunResult :=
  match CommandLine.read words with
  | .error refusal => (w, ⟨none, refusal.exitCode⟩)
  | .ok invocation =>
    match w.perform invocation with
    | .ok result => result
    | .error e => (w, .failed e)

end Workspace

end Docstring
