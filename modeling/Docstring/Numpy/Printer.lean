-- Writing NumPy-style docstrings.
import Docstring.Document.Layout

namespace Docstring.Numpy

def title (kind : SectionKind) : Line :=
  match kind with
  | .params => "Parameters".toList
  | .returns => "Returns".toList
  | .yields => "Yields".toList
  | .raises => "Raises".toList
  | .examples => "Examples".toList
  | .notes => "Notes".toList
  | .warnings => "Warnings".toList
  | .seeAlso => "See Also".toList
  | .references => "References".toList

def headerLines (kind : SectionKind) : List Line :=
  [title kind, List.replicate (title kind).length '-']

def descriptionIndent : Nat := 4

def descriptionLines (width : Nat) (description : Option Text) : List Line :=
  let text := description.getD []
  if Text.isBlank text then []
  else Text.indent descriptionIndent (Layout.wrapProse (width - descriptionIndent) text)

/-- The line that names a parameter, with its type and default. -/
def paramHead (p : Parameter) : Line :=
  match p.type, p.default with
  | some type, some default =>
    p.display ++ " : ".toList ++ type ++ ", default: ".toList ++ default
  | some type, none => p.display ++ " : ".toList ++ type
  | none, some default => p.display ++ " : default: ".toList ++ default
  | none, none => p.display

def paramLines (width : Nat) (p : Parameter) : List Line :=
  paramHead p :: descriptionLines width p.description

/-- The entry of a returned or yielded value. -/
def returnLines (width : Nat) (doc : ReturnDoc) : List Line :=
  doc.type.toList ++ descriptionLines width doc.description

def raiseLines (width : Nat) (r : RaiseEntry) : List Line :=
  r.exception :: descriptionLines width r.description

/-- A header over the lines of its section, if there are entries. -/
def underHeader (kind : SectionKind) (entries : List (List Line)) : List Line :=
  if entries.isEmpty then [] else headerLines kind ++ entries.flatten

/-- Every block under a header of its own. -/
def eachUnderHeader (kind : SectionKind) (blocks : List (List Line)) : List Line :=
  Layout.separate (blocks.map fun block => headerLines kind ++ block)

/-- The lines of one section, its header included; none when the document has no such section. -/
def sectionLines (d : Document) (kind : SectionKind) (width : Nat) : List Line :=
  match kind with
  | .params => underHeader kind (d.parameters.map (paramLines width))
  | .returns => underHeader kind (d.returns.toList.map (returnLines width))
  | .yields => underHeader kind (d.yields.toList.map (returnLines width))
  | .raises => underHeader kind (d.raises.map (raiseLines width))
  | .examples => eachUnderHeader kind (d.examples.map (Layout.verbatim 0))
  | _ => eachUnderHeader kind ((Layout.freeTexts d kind).map (Layout.wrapProse width))

def render (d : Document) (width : Nat) : Text :=
  Layout.assemble
    (Layout.headBlocks d width ++ SectionKind.order.map fun kind => sectionLines d kind width)

end Docstring.Numpy
