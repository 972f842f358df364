-- Errors of a whole run or of a whole file: their messages, exit codes and details. What happens
-- to a single docstring is an outcome and never an error.
import Docstring.Edit.Basic
import Docstring.Json

namespace Docstring

/-- A place in a file; both numbers count from one. -/
structure Location where
  file : String
  line : Nat
  column : Nat
deriving DecidableEq, Repr

namespace Location

def display (l : Location) : String :=
  l.file ++ ":" ++ Nat.repr l.line ++ ":" ++ Nat.repr l.column

def json (l : Location) : Json :=
  .object [("file", .text l.file), ("line", .natural l.line), ("col", .natural l.column)]

end Location

/-- Why a run or a file failed. -/
inductive RunError where
  | invalidArguments (message : String) (details : Option Json)
  | fileNotFound (path : String)
  /-- A file that is no program. -/
  | malformedSource (file : String) (line : Nat) (message : String)
  | applyFailed (message : String) (file : Option String)
  /-- A file changed while it was worked on. -/
  | staleSnapshot (file : String)
  | findingsPresent (count : Nat)
  | internal (message : String)
deriving Repr

/-- An error as reports carry it. -/
structure ErrorInfo where
  code : Nat
  message : String
  details : Option Json := none
  location : Option Location := none
deriving Repr

def ErrorInfo.json (e : ErrorInfo) : Json :=
  .object
    ([("code", .natural e.code), ("message", .text e.message)] ++
      Json.field? "details" e.details ++ Json.field? "location" (e.location.map Location.json))

namespace RunError

def message : RunError → String
  | .invalidArguments message _ => "invalid arguments: " ++ message
  | .fileNotFound path => "file not found: " ++ path
  | .malformedSource file _ message => "cannot scan " ++ file ++ ": " ++ message
  | .applyFailed message _ => "apply error: " ++ message
  | .staleSnapshot file => "file changed during processing: " ++ file
  | .findingsPresent count => Nat.repr count ++ " finding(s) reported"
  | .internal message => "internal error: " ++ message

/-- The exit code of a run that ends in an error: 2 for bad input, 3 for a missing file, 4 for
edits that could not be written, 5 for findings, 10 for anything unexpected. -/
def exitCode : RunError → Nat
  | .invalidArguments _ _ | .malformedSource _ _ _ => 2
  | .fileNotFound _ => 3
  | .applyFailed _ _ | .staleSnapshot _ => 4
  | .findingsPresent _ => 5
  | .internal _ => 10

def details : RunError → Option Json
  | .invalidArguments _ details => details
  | .fileNotFound path => some (.object [("path", .text path)])
  | .malformedSource file _ _ | .staleSnapshot file => some (.object [("file", .text file)])
  | .applyFailed _ file => file.map fun f => .object [("file", .text f)]
  | .findingsPresent count => some (.object [("findings", .natural count)])
  | .internal _ => none

def location : RunError → Option Location
  | .malformedSource file line _ => some ⟨file, line, 1⟩
  | _ => none

def info (e : RunError) : ErrorInfo := ⟨e.exitCode, e.message, e.details, e.location⟩

/-- The error of edits that cannot be made. -/
def ofEditError (e : EditError) : RunError := .applyFailed e.message none

end RunError

end Docstring
