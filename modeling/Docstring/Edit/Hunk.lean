-- Hunks: the blocks of whole lines that a list of edits changes, and their unified diff.
import Docstring.Edit.Basic

namespace Docstring

/-- A block of lines and what replaces it. -/
structure Hunk where
  /-- The number of the first replaced line, from one. -/
  start : Nat
  removed : List Line
  added : List Line
deriving DecidableEq, Repr

namespace Hunk

/-! ## Windows -/

/-- A range of whole lines, by byte offsets, and the edits in it. -/
structure Window where
  first : Nat
  last : Nat
  edits : List Edit
deriving DecidableEq, Repr

/-- The whole lines that an edit touches. None when the edit cuts a character in two. -/
def window? (t : Text) (e : Edit) : Option Window :=
  match Text.lineStart? t e.span.first, Text.lineEnd? t e.span.last with
  | some first, some last => some ⟨first, last, [e]⟩
  | _, _ => none

/-- Joins a window to the last one of a list when they share a line. -/
def addWindow (windows : List Window) (w : Window) : List Window :=
  match windows.getLast? with
  | some current =>
    if w.first < current.last then
      windows.dropLast ++ [⟨current.first, max current.last w.last, current.edits ++ w.edits⟩]
    else windows ++ [w]
  | none => windows ++ [w]

/-- The windows of all edits that end inside the text, from the first to the last. -/
def windows? (t : Text) (edits : List Edit) : Option (List Window) :=
  let inside := edits.filter fun e => e.span.last ≤ Text.byteLength t
  ((Edit.ascending inside).mapM (window? t)).map fun ws => ws.foldl addWindow []

/-! ## Blocks -/

/-- What a window holds from `cursor` on after its edits. None when they are out of order. -/
def newBlock? (t : Text) (last : Nat) : Nat → List Edit → Option Text
  | cursor, [] => Text.slice? t cursor last
  | cursor, e :: rest => do
    let gap ← Text.slice? t cursor e.span.first
    let tail ← newBlock? t last e.span.last rest
    return gap ++ e.text ++ tail

/-- The hunk of a window; none inside when the edits change nothing. -/
def ofWindow? (t : Text) (w : Window) : Option (Option Hunk) := do
  let old ← Text.slice? t w.first w.last
  let new ← newBlock? t w.last w.first w.edits
  if new = old then return none
  return some ⟨(Text.position t w.first).line, Text.terminatedLines old, Text.terminatedLines new⟩

/-- The hunks of a list of edits. None when the edits overlap or cut a character in two, so that
the text between them does not exist. -/
def collect? (t : Text) (edits : List Edit) : Option (List Hunk) := do
  let windows ← windows? t edits
  let hunks ← windows.mapM (ofWindow? t)
  return hunks.filterMap id

/-! ## Unified diff -/

/-- The line that opens a hunk, after earlier hunks have added `delta` lines. -/
def header (h : Hunk) (delta : Int) : String :=
  let newStart := ((h.start : Int) + delta).toNat
  "@@ -" ++ Nat.repr h.start ++ "," ++ Nat.repr h.removed.length ++ " +" ++ Nat.repr newStart ++
    "," ++ Nat.repr h.added.length ++ " @@"

def diffLines (h : Hunk) (delta : Int) : List String :=
  h.header delta :: (h.removed.map fun line => "-" ++ line.asString) ++
    h.added.map fun line => "+" ++ line.asString

def diffAll (delta : Int) : List Hunk → List String
  | [] => []
  | h :: rest =>
    h.diffLines delta ++ diffAll (delta + h.added.length - h.removed.length) rest

/-- The unified diff of a file, without context lines; empty without hunks. -/
def unifiedDiff (file : String) (hunks : List Hunk) : String :=
  if hunks.isEmpty then ""
  else
    let lines := ("--- a/" ++ file) :: ("+++ b/" ++ file) :: diffAll 0 hunks
    String.join (lines.map fun line => line ++ "\n")

end Hunk

end Docstring
