-- Edits of many files: grouping them by file, finding conflicts, and editing each file on its own.
import Docstring.Edit.Basic

namespace Docstring

/-- The texts of files by their number, in increasing order of the numbers. -/
abbrev FileTexts := List (Nat × Text)

/-- What keeps edits from being made. -/
inductive Conflict where
  | overlapping (file : Nat) (first second : Span)
  | missing (file : Nat)
deriving DecidableEq, Repr

/-- Edits of many files, in the order that they were made. -/
structure EditBatch where
  edits : List Edit
deriving DecidableEq, Repr

namespace EditBatch

/-- The numbers of the files that have edits, each once, in increasing order. -/
def files (batch : EditBatch) : List Nat :=
  ((batch.edits.map Edit.file).mergeSort fun a b => a ≤ b).eraseReps

/-- The edits of one file from the first to the last. -/
def editsOf (batch : EditBatch) (file : Nat) : List Edit :=
  Edit.ascending (batch.edits.filter fun e => e.file = file)

/-- The pairs of an edit with a later one that it overlaps. -/
def clashes (file : Nat) : List Edit → List Conflict
  | [] => []
  | e :: rest =>
    (rest.filter fun f => e.span.overlaps f.span).map
        (fun f => Conflict.overlapping file e.span f.span) ++
      clashes file rest

/-- Every overlapping pair of edits, file by file. -/
def conflicts (batch : EditBatch) : List Conflict :=
  batch.files.flatMap fun file => clashes file (batch.editsOf file)

/-- Makes the edits of each file whose text is known. A failure in one file leaves the others
alone. -/
def apply (batch : EditBatch) (texts : FileTexts) : List (Nat × Except EditError Text) :=
  batch.files.filterMap fun file =>
    (texts.lookup file).map fun t => (file, Edit.applyAll t (batch.editsOf file))

/-- The files that have edits but no text. -/
def missing (batch : EditBatch) (texts : FileTexts) : List Conflict :=
  (batch.files.filter fun file => (texts.lookup file).isNone).map Conflict.missing

/-- The name of a file number in reports. -/
def fileName (file : Nat) : String := "file_" ++ Nat.repr file

end EditBatch

end Docstring
