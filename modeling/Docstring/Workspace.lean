-- Files and directories as a value: finding, reading, writing and collecting files.
import Docstring.Config
import Docstring.Glob
import Docstring.Path
import Docstring.RunError

namespace Docstring

/-- The bytes of a file. -/
abbrev Bytes := List UInt8

/-- The names that lead from the root to a file or a directory. -/
abbrev Route := List Text

/-- Files by their routes, and the directory that relative paths start from. Directories exist as
far as files or the working directory are in them. -/
structure Workspace where
  directory : Path
  files : List (Route × Bytes)
deriving Repr

/-- Why a file cannot be read. -/
inductive AccessError where
  | notFound
  | notDirectory
  | isDirectory
  | notText
deriving DecidableEq, Repr

/-- What the system says about a file that cannot be read. -/
def AccessError.message : AccessError → String
  | .notFound => "No such file or directory (os error 2)"
  | .notDirectory => "Not a directory (os error 20)"
  | .isDirectory => "Is a directory (os error 21)"
  | .notText => "stream did not contain valid UTF-8"

namespace Workspace

/-! ## Finding files -/

def home (w : Workspace) : Route := (Path.segments w.directory).filter fun s => !s.isEmpty

def contents? (w : Workspace) (p : Route) : Option Bytes := w.files.lookup p

def hasDirectory (w : Workspace) (p : Route) : Bool :=
  p.isPrefixOf w.home || w.files.any fun file => p.isPrefixOf file.1 && p ≠ file.1

def enter (w : Workspace) (p : Route) : Except AccessError Route :=
  if w.hasDirectory p then .ok p
  else if (w.contents? p).isSome then .error .notDirectory
  else .error .notFound

/-- Goes one segment further. Every segment starts from a directory. -/
def advance (w : Workspace) (p : Route) (segment : Text) : Except AccessError Route := do
  let p ← w.enter p
  if segment.isEmpty || segment = Path.here then return p
  else if segment = Path.above then return p.dropLast
  else return p ++ [segment]

def locate (w : Workspace) (p : Path) : Except AccessError Route :=
  if p.isEmpty then .error .notFound
  else (Path.segments p).foldlM w.advance (if Path.isAbsolute p then [] else w.home)

def isFile (w : Workspace) (p : Path) : Bool :=
  match w.locate p with
  | .ok route => (w.contents? route).isSome
  | .error _ => false

def isDirectory (w : Workspace) (p : Path) : Bool :=
  match w.locate p with
  | .ok route => w.hasDirectory route
  | .error _ => false

/-! ## Reading and writing -/

/-- The text that bytes stand for in UTF-8. -/
def decode? (bytes : Bytes) : Option Text :=
  (String.fromUTF8? ⟨bytes.toArray⟩).map String.toList

/-- The bytes of a text in UTF-8. -/
def encode (t : Text) : Bytes := t.asString.toUTF8.toList

def read (w : Workspace) (p : Path) : Except AccessError Text := do
  let route ← w.locate p
  match w.contents? route with
  | some bytes =>
    match decode? bytes with
    | some t => return t
    | none => .error .notText
  | none => if w.hasDirectory route then .error .isDirectory else .error .notFound

/-- Sets the contents of a file, in its old place if it has one. -/
def store (p : Route) (bytes : Bytes) : List (Route × Bytes) → List (Route × Bytes)
  | [] => [(p, bytes)]
  | (known, old) :: rest =>
    if known = p then (p, bytes) :: rest else (known, old) :: store p bytes rest

def write (w : Workspace) (p : Path) (bytes : Bytes) : Except AccessError Workspace := do
  let route ← w.locate p
  return { w with files := store route bytes w.files }

/-! ## Configuration -/

def configError (p : Path) (message : String) : RunError :=
  .invalidArguments message (some (.object [("config", .text p.asString)]))

/-- The error of a configuration file with a malformed text or a bad value. -/
def invalidConfig (p : Path) : RunError :=
  configError p ("invalid configuration in " ++ p.asString)

def configText (w : Workspace) (p : Path) : Except RunError Text :=
  match w.read p with
  | .ok t => .ok t
  | .error e => .error (configError p ("cannot read " ++ p.asString ++ ": " ++ e.message))

def settings (w : Workspace) (p : Path) : Except RunError Config := do
  match Config.ofText? (← w.configText p) with
  | some config => return config
  | none => .error (invalidConfig p)

/-- Reads the settings of a project file, if it has any. -/
def projectSettings (w : Workspace) (p : Path) : Except RunError (Option Config) := do
  match Config.ofProjectText? (← w.configText p) with
  | some config => return config
  | none => .error (invalidConfig p)

/-- Loads the given configuration file. A project file without settings gives the defaults. -/
def loadConfig (w : Workspace) (p : Path) : Except RunError Config := do
  if Path.lastName? p = some Config.projectFileName then
    return (← w.projectSettings p).getD {}
  else w.settings p

/-- Looks for settings in directories one after the other. In each, a file of settings comes before
a project file, and a project file without settings is passed over. -/
def searchConfig (w : Workspace) : List Path → Except RunError (Option (Path × Config))
  | [] => return none
  | directory :: rest => do
    let own := Path.join directory Config.fileName
    let project := Path.join directory Config.projectFileName
    if w.isFile own then return some (own, ← w.settings own)
    else if w.isFile project then
      match ← w.projectSettings project with
      | some config => return some (project, config)
      | none => w.searchConfig rest
    else w.searchConfig rest

/-- Looks for settings in a directory and those above it. -/
def discoverConfig (w : Workspace) (directory : Path) : Except RunError (Option (Path × Config)) :=
  w.searchConfig (Path.ancestors directory)

/-! ## Collecting files -/

/-- Patterns of files that are always left out of directories. -/
def usualExclusions : List String :=
  ["**/.git/**", "**/__pycache__/**", "**/.venv/**", "**/venv/**", "**/build/**", "**/dist/**"]

def readPatterns (patterns : List Text) : Except RunError (List Glob) :=
  patterns.mapM fun pattern =>
    match Glob.parse? pattern with
    | some glob => .ok glob
    | none =>
      .error (.invalidArguments ("invalid glob pattern '" ++ Text.asString pattern ++ "'") none)

/-- The patterns of files to leave out: the usual ones and those given. -/
def exclusions (patterns : List Text) : Except RunError (List Glob) :=
  readPatterns (usualExclusions.map String.toList ++ patterns)

/-- Is a path below a directory left out? -/
def isExcluded (globs : List Glob) (relative : Path) : Bool :=
  globs.any fun glob => glob.isMatch relative.asString

def pathOf (p : Route) : Path := List.intercalate ['/'] p

/-- The files below a directory with the ending of Python sources, but for those left out. -/
def walk (w : Workspace) (globs : List Glob) (directory : Path) (root : Route) : List Path :=
  w.files.filterMap fun file =>
    let relative := file.1.drop root.length
    let name := relative.getLast?.getD []
    if root.isPrefixOf file.1 && Path.hasExtension name "py".toList &&
        !isExcluded globs (pathOf relative) then
      some (Path.join directory (pathOf relative))
    else none

/-- The files that a path stands for: itself, or those in the directory. -/
def expand (w : Workspace) (globs : List Glob) (p : Path) : Except RunError (List Path) :=
  match w.locate p with
  | .ok route =>
    if (w.contents? route).isSome then .ok [p]
    else if w.hasDirectory route then .ok (w.walk globs p route)
    else .error (.fileNotFound p.asString)
  | .error _ => .error (.fileNotFound p.asString)

/-- The files that paths stand for, in order and each once. -/
def collect (w : Workspace) (exclude : List Text) (paths : List Path) :
    Except RunError (List Path) := do
  let globs ← exclusions exclude
  let found ← paths.mapM (w.expand globs)
  return Path.sorted found.flatten

end Workspace

end Docstring
