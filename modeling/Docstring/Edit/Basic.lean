-- Edits of one text: replacements of byte spans that are all made at once, or not at all.
import Docstring.Edit.Span
import Docstring.Text.Offset

namespace Docstring

/-! ## Edits -/

/-- Where an edit comes from. -/
structure EditLabels where
  operation : Option String := none
  symbol : Option String := none
  reason : Option String := none
deriving DecidableEq, Repr

/-- A replacement of one span of a file by a text. -/
structure Edit where
  /-- The number of the file within a run. -/
  file : Nat := 0
  span : Span
  text : Text
  labels : EditLabels := {}
deriving DecidableEq, Repr

/-- Why a list of edits cannot be made. -/
inductive EditError where
  | overlapping (first second : Span)
  | outOfBounds (span : Span) (length : Nat)
  | notBoundary (span : Span)
deriving DecidableEq, Repr

/-- What is said about edits that cannot be made. -/
def EditError.message : EditError → String
  | .overlapping first second => "overlapping edits " ++ first.display ++ " and " ++ second.display
  | .outOfBounds span length =>
    "span " ++ span.display ++ " out of bounds (text length " ++ Nat.repr length ++ ")"
  | .notBoundary span => "span " ++ span.display ++ " does not fall on character boundaries"

namespace Edit

/-! ## Validity -/

/-- What is wrong with one span of a text, if anything. -/
def fault? (t : Text) (span : Span) : Option EditError :=
  if span.last > Text.byteLength t || span.first > span.last then
    some (.outOfBounds span (Text.byteLength t))
  else if !Text.isBoundary t span.first || !Text.isBoundary t span.last then
    some (.notBoundary span)
  else none

/-- Does a span come before another, by start and then by end? -/
def before (a b : Span) : Bool := a.first < b.first || (a.first = b.first && a.last ≤ b.last)

/-- Edits from the first to the last; edits of equal spans keep their order. -/
def ascending (edits : List Edit) : List Edit :=
  edits.mergeSort fun a b => before a.span b.span

/-- Edits from the last to the first; edits of equal spans keep their order. -/
def descending (edits : List Edit) : List Edit :=
  edits.mergeSort fun a b => before b.span a.span

def clash? : List Edit → Option EditError
  | later :: earlier :: rest =>
    if later.span.overlaps earlier.span then some (.overlapping earlier.span later.span)
    else clash? (earlier :: rest)
  | _ => none

/-! ## Making edits -/

/-- Replaces one span of a text; a span that the text does not have changes nothing. -/
def replace (t : Text) (e : Edit) : Text :=
  match Text.cut? t e.span.first with
  | some (left, rest) =>
    match Text.cut? rest (e.span.last - e.span.first) with
    | some (_, right) => left ++ e.text ++ right
    | none => t
  | none => t

/-- Makes all edits against the same text. They are checked one by one in the order given, then
for overlaps, and made from the last to the first so that earlier offsets stay valid. -/
def applyAll (t : Text) (edits : List Edit) : Except EditError Text :=
  match edits.findSome? fun e => fault? t e.span with
  | some fault => .error fault
  | none =>
    let ordered := descending edits
    match clash? ordered with
    | some clash => .error clash
    | none => .ok (ordered.foldl replace t)

end Edit

end Docstring
