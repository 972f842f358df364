-- Writing Google-style docstrings.
import Docstring.Document.Layout
import Docstring.Google.Header

namespace Docstring.Google

def headerLine (kind : SectionKind) : Line :=
  match kind with
  | .params => "Args:".toList
  | .returns => "Returns:".toList
  | .yields => "Yields:".toList
  | .raises => "Raises:".toList
  | .examples => "Examples:".toList
  | .notes => "Notes:".toList
  | .warnings => "Warnings:".toList
  | .seeAlso => "See Also:".toList
  | .references => "References:".toList

def continuationIndent : Nat := 8

/-- What stands before the description of a parameter. -/
def paramLead (p : Parameter) : Text :=
  match p.type with
  | some type => p.display ++ " (".toList ++ type ++ "):".toList
  | none => p.display ++ [':']

def entryLines (width : Nat) (lead : Text) (description : Option Text) : List Line :=
  Layout.hanging bodyIndent lead (description.getD []) width continuationIndent

/-- The body of a section on the returned or yielded value. -/
def returnLines (width : Nat) (doc : ReturnDoc) : List Line :=
  let text := doc.description.getD []
  match doc.type with
  | some type => Layout.hanging bodyIndent (type ++ [':']) text width bodyIndent
  | none =>
    if Text.isBlank text then [] else Layout.hanging bodyIndent [] text width bodyIndent

/-- A header over the lines of its section, if there are entries. -/
def underHeader (kind : SectionKind) (entries : List (List Line)) : List Line :=
  if entries.isEmpty then [] else headerLine kind :: entries.flatten

/-- Every block under a header of its own. -/
def eachUnderHeader (kind : SectionKind) (blocks : List (List Line)) : List Line :=
  Layout.separate (blocks.map fun block => headerLine kind :: block)

/-- The lines of one section, its header included; none when the document has no such section. -/
def sectionLines (d : Document) (kind : SectionKind) (width : Nat) : List Line :=
  match kind with
  | .params =>
    underHeader kind (d.parameters.map fun p => entryLines width (paramLead p) p.description)
  | .returns => underHeader kind (d.returns.toList.map (returnLines width))
  | .yields => underHeader kind (d.yields.toList.map (returnLines width))
  | .raises =>
    underHeader kind (d.raises.map fun r => entryLines width (r.exception ++ [':']) r.description)
  | .examples => eachUnderHeader kind (d.examples.map (Layout.verbatim bodyIndent))
  | _ =>
    eachUnderHeader kind ((Layout.freeTexts d kind).map fun text =>
      Text.indent bodyIndent (Layout.wrapProse (width - bodyIndent) text))

def render (d : Document) (width : Nat) : Text :=
  Layout.assemble
    (Layout.headBlocks d width ++ SectionKind.order.map fun kind => sectionLines d kind width)

end Docstring.Google
