-- Writing field lists in reStructuredText.
import Docstring.Document.Layout

namespace Docstring.Rest

def continuationIndent : Nat := 4

/-! ## Fields -/

def fieldLines (width : Nat) (lead : Text) (description : Option Text) : List Line :=
  Layout.hanging 0 lead (description.getD []) width continuationIndent

def typeLine (name type : Text) : Line := ':' :: name ++ ": ".toList ++ type

def paramLines (width : Nat) (p : Parameter) : List Line :=
  fieldLines width (":param ".toList ++ p.display ++ [':']) p.description ++
    p.type.toList.map (typeLine ("type ".toList ++ p.display))

/-- The fields of a returned or yielded value. -/
def returnLines (width : Nat) (name typeName : Text) (doc : ReturnDoc) : List Line :=
  (if doc.description.isSome || doc.type.isNone then
      fieldLines width (':' :: name ++ [':']) doc.description
    else []) ++
    doc.type.toList.map (typeLine typeName)

def raiseLines (width : Nat) (r : RaiseEntry) : List Line :=
  fieldLines width (":raises ".toList ++ r.exception ++ [':']) r.description

/-! ## Blocks -/

/-- The field that opens a block of a kind. -/
def blockHeader (kind : SectionKind) : Line :=
  match kind with
  | .examples => ":Examples:".toList
  | .notes => ":Notes:".toList
  | .warnings => ":Warnings:".toList
  | .seeAlso => ":See Also:".toList
  | _ => ":References:".toList

/-- One block for every example or free text. -/
def blocks (d : Document) (kind : SectionKind) (width : Nat) : List (List Line) :=
  let bodies :=
    if kind = .examples then d.examples.map (Layout.verbatim continuationIndent)
    else
      (Layout.freeTexts d kind).map fun text =>
        Text.indent continuationIndent (Layout.wrapProse (width - continuationIndent) text)
  bodies.map fun body => blockHeader kind :: body

/-! ## Documents -/

/-- The lines of one section; none when the document has no such section. -/
def sectionLines (d : Document) (kind : SectionKind) (width : Nat) : List Line :=
  match kind with
  | .params => d.parameters.flatMap (paramLines width)
  | .returns => d.returns.toList.flatMap (returnLines width "returns".toList "rtype".toList)
  | .yields => d.yields.toList.flatMap (returnLines width "yields".toList "ytype".toList)
  | .raises => d.raises.flatMap (raiseLines width)
  | _ => Layout.separate (blocks d kind width)

/-- The sections that make up one field list. -/
def fieldSections : List SectionKind := [.params, .returns, .yields, .raises]

/-- Writes a document as a summary, prose, one field list, and the other sections. -/
def render (d : Document) (width : Nat) : Text :=
  let fields := fieldSections.flatMap fun kind => sectionLines d kind width
  let others := (SectionKind.order.drop fieldSections.length).flatMap fun kind =>
    blocks d kind width
  Layout.assemble (Layout.headBlocks d width ++ [fields] ++ others)

end Docstring.Rest
