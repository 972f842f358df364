-- The program: loads the files that a command line is about, carries the command out, writes the
-- files that changed, and prints the response.
import Docstring.Digest
import Docstring.Run

namespace Docstring.Program

/-! ## Loading -/

/-- The route of a path by its spelling. -/
def routeOf (directory p : Path) : Route :=
  let start := if Path.isAbsolute p then [] else Path.segments directory
  (start ++ Path.segments p).foldl
    (fun route segment =>
      if segment.isEmpty || segment = Path.here then route
      else if segment = Path.above then route.dropLast
      else route ++ [segment])
    []

def nameOf (route : Route) : String := "/" ++ (Workspace.pathOf route).asString

def loadFile (files : List (Route × Bytes)) (route : Route) : IO (List (Route × Bytes)) := do
  try
    let bytes ← IO.FS.readBinFile (nameOf route)
    return Workspace.store route bytes.toList files
  catch _ => return files

/-- Reads a file, or the Python sources below a directory. -/
partial def loadTree (files : List (Route × Bytes)) (route : Route) :
    IO (List (Route × Bytes)) := do
  let path ← IO.FS.realPath (nameOf route)
  if ← path.isDir then
    let mut found := files
    for entry in ← path.readDir do
      let inner := route ++ [entry.fileName.toList]
      if (← entry.path.isDir) || Path.hasExtension entry.fileName.toList "py".toList then
        found ← loadTree found inner
    return found
  else loadFile files route

/-- The routes of the configuration files that a run may read. -/
def configRoutes (directory : Path) (named : Option Path) : List Route :=
  match named with
  | some p => [routeOf directory p]
  | none =>
    (Path.ancestors directory).flatMap fun d =>
      [routeOf d Config.fileName, routeOf d Config.projectFileName]

def load (directory : Path) (i : Invocation) : IO Workspace := do
  let mut files := []
  for route in configRoutes directory i.config do
    files ← loadFile files route
  for p in i.paths do
    try
      files ← loadTree files (routeOf directory p)
    catch _ => pure ()
  return { directory := directory, files := files }

/-! ## Writing -/

/-- Writes the files whose contents changed, unless they changed on disk as well. -/
def save (before after : Workspace) : IO Unit := do
  for (route, bytes) in after.files do
    let old := (before.contents? route).getD []
    if old ≠ bytes then
      let current ← IO.FS.readBinFile (nameOf route)
      if Digest.ofBytes current.toList = Digest.ofBytes old then
        IO.FS.writeBinFile (nameOf route) ⟨bytes.toArray⟩

/-- Runs a command line in the working directory; the result is the exit code. -/
def run (words : List String) : IO Nat := do
  let words := words.map String.toList
  let directory := (← IO.currentDir).toString.toList
  match CommandLine.read words with
  | .error refusal =>
    IO.eprintln "usage: (convert | fix-rtype | fix-annotations | check | detect) [options] paths"
    return refusal.exitCode
  | .ok invocation =>
    let before ← load directory invocation
    let (after, result) := before.run words
    save before after
    if let some response := result.response then IO.print response.document
    return result.exitCode

end Docstring.Program

def main (args : List String) : IO UInt32 := do
  return UInt32.ofNat (← Docstring.Program.run args)
